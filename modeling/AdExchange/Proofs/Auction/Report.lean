import AdExchange.Proofs.Auction.Attribution
import AdExchange.Proofs.Dictionaries

/-!
# What a response reports

Errors come up when a partner is asked, when its bids are checked and when they are brought to one
currency; they stay with the partner until the response is put together.  There they are entered
under the name of the partner, where a second entry would take the place of the first one.  That
nothing is lost is due to the names: no two of the requests to the partners have the same one, and
no stage changes the name of a response.
-/

namespace AdExchange

/-! ## The extension of a response -/

/-- The errors of a partner as they are reported. -/
def PartnerResponse.notices (r : PartnerResponse) : List Json :=
  r.errors.map fun e => notice e.kind.code e.message

/-- What the extension of a response has under a key. -/
def BidResponse.reported? (response : BidResponse) (key : String) : Option Json :=
  response.ext.bind (·.get? key)

/-- A response reports, under the names of the partners, the errors of each that has some and the
time of each, once; and it reports the warnings and the rejections, in their order.  Where nothing
is to be reported there is no entry, but for the times. -/
structure BidResponse.Reports (response : BidResponse) (responses : List PartnerResponse)
    (warnings rejections : List String) : Prop where
  errors : ∃ entries : Dictionary Json,
    entries.Perm ((responses.filter fun r => r.errors ≠ []).map fun r =>
      (r.partner, .array r.notices)) ∧
    response.reported? "errors" = if entries = [] then none else some (.object entries)
  times : ∃ entries : Dictionary Json,
    entries.Perm (responses.map fun r => (r.partner, .nat r.responseTimeMs)) ∧
    response.reported? "responsetimemillis" = some (.object entries)
  warnings : response.reported? "warnings" =
    if warnings = [] then none
    else some (.object [("general", .array (warnings.map (notice 999)))])
  rejections : response.reported? "rejections" =
    if rejections = [] then none else some (.strings rejections)

/-- Under different names each partner has its own entry among the errors. -/
theorem perm_errorNotices {responses : List PartnerResponse}
    (hnames : (responses.map (·.partner)).Nodup) :
    (errorNotices responses).Perm ((responses.filter fun r => r.errors ≠ []).map fun r =>
      (r.partner, .array r.notices)) := by
  have hsome : (responses.filter fun r => !r.errors.isEmpty) =
      responses.filter fun r => r.errors ≠ [] := by
    refine List.filter_congr fun r _ => ?_
    cases r.errors <;> rfl
  rw [errorNotices, hsome]
  refine Dictionary.perm_ofList ?_
  rw [List.map_map]
  exact hnames.sublist (List.filter_sublist.map _)

/-- Under different names each partner has its own entry among the times. -/
theorem perm_latencies {responses : List PartnerResponse}
    (hnames : (responses.map (·.partner)).Nodup) :
    (latencies responses).Perm (responses.map fun r => (r.partner, .nat r.responseTimeMs)) := by
  refine Dictionary.perm_ofList ?_
  rw [List.map_map]
  exact hnames

/-- Under different names nothing that is reported is overwritten, and nothing else is there. -/
theorem reports_assemble {input : AssemblyInput}
    (hnames : (input.responses.map (·.partner)).Nodup) :
    (assemble input).Reports input.responses input.warnings input.rejections where
  errors := by
    refine ⟨_, perm_errorNotices hnames, ?_⟩
    refine (Json.get?_ofFields (by simp) (.head _)).trans ?_
    simp
  times := by
    refine ⟨_, perm_latencies hnames, ?_⟩
    exact Json.get?_ofFields (by simp) (.tail _ (.tail _ (.tail _ (.head _))))
  warnings := by
    refine (Json.get?_ofFields (by simp) (.tail _ (.head _))).trans ?_
    simp [PartnerErrorKind.code]
  rejections := by
    refine (Json.get?_ofFields (by simp) (.tail _ (.tail _ (.head _)))).trans ?_
    simp [Json.nonempty?, Json.strings]

/-! ## What is reported of the answers -/

def PartnerResponse.withoutBids (r : PartnerResponse) : PartnerResponse := { r with bids := [] }

/-- What is reported does not depend on the bids. -/
theorem BidResponse.Reports.congr {response : BidResponse}
    {responses responses' : List PartnerResponse} {warnings rejections : List String}
    (heq : responses.map (·.withoutBids) = responses'.map (·.withoutBids))
    (h : response.Reports responses warnings rejections) :
    response.Reports responses' warnings rejections := by
  have herrors : ∀ rs : List PartnerResponse,
      ((rs.filter fun r => r.errors ≠ []).map fun r => (r.partner, Json.array r.notices)) =
        (((rs.map (·.withoutBids)).filter fun r => r.errors ≠ []).map fun r =>
          (r.partner, Json.array r.notices)) := by
    intro rs
    rw [List.filter_map, List.map_map]
    rfl
  have htimes : ∀ rs : List PartnerResponse,
      (rs.map fun r => (r.partner, Json.nat r.responseTimeMs)) =
        ((rs.map (·.withoutBids)).map fun r => (r.partner, Json.nat r.responseTimeMs)) := by
    intro rs
    rw [List.map_map]
    rfl
  refine ⟨?_, ?_, h.warnings, h.rejections⟩
  · rw [herrors, ← heq, ← herrors]
    exact h.errors
  · rw [htimes, ← heq, ← htimes]
    exact h.times

theorem map_withoutBids_withoutPlaces (places : List BidPlace) (responses : List PartnerResponse) :
    (withoutPlaces places responses).map (·.withoutBids) = responses.map (·.withoutBids) := by
  refine List.ext_getElem? fun i => ?_
  simp [withoutPlaces, Function.comp_def, PartnerResponse.withoutBids]

/-- The warning that each partner gets if a request lists several currencies. -/
theorem toList_settlementCurrency (request : BidRequest) (default : String) :
    (settlementCurrency request default).2.toList =
      if 1 < (request.cur.getD []).length then
        [.severalCurrencies ((request.cur.getD []).headD default)]
      else [] := by
  rw [settlementCurrency_eq]
  by_cases h : 1 < (request.cur.getD []).length <;> simp [h]

namespace Exchange

variable {x : Exchange} {now : Nat} {earlier : List HttpCall} {request : BidRequest}
  {context : AuctionContext} {deadline : Deadline} {s : ScopedRequests} {m : Timed CategoryMapping}

/-- No two requests are for partners of the same name. -/
theorem nodup_partners_asked (h : x.asked now request context = .ok (deadline, s)) :
    (s.requests.map (·.partner)).Nodup := by
  obtain ⟨decisions, -, hscope⟩ := bind_eq_ok_iff.1 (instant_of_asked h).2
  rw [partners_of_scope hscope]
  exact request.nodup_partnerNames.sublist List.filter_sublist

section

variable (x : Exchange) (now : Nat) (earlier : List HttpCall) (request : BidRequest)
  (s : ScopedRequests)

/-- The answers have the names of the requests, in their order. -/
theorem names_dispatched :
    (x.dispatched now earlier s).responses.map (fun r => (r.partner, r.code)) =
      s.requests.map fun q => (q.partner, q.code) :=
  PartnerRound.names_responses
    { catalog := x.catalog, adapters := x.adapters, transport := x.transport, earlier
      requests := s.requests, reports := x.texts.crash } now

/-- The answers in one currency have the names of the requests as well. -/
theorem names_answers :
    (x.answers now earlier request s).map (fun r => (r.partner, r.code)) =
      s.requests.map fun q => (q.partner, q.code) := by
  rw [← names_dispatched x now earlier, answers, normalize, List.map_map]
  rfl

/-- What becomes of the answers when they are brought to one currency. -/
theorem settledInto_answers :
    List.Forall₂
      (PartnerResponse.SettledInto (x.settlement request) x.catalog x.config.defaultCurrency
        (settlementCurrency request x.config.defaultCurrency).2.toList)
      (x.dispatched now earlier s).responses (x.answers now earlier request s) := by
  rw [answers, normalize, List.forall₂_map_right_iff, List.forall₂_same]
  intro r _
  exact settledInto_settle _ _ _ _ r

end

/-- The response of an auction reports everything once.  The partners that are asked have different
names, and each of them answers.  Its errors are those of its answer, then the warning about several
currencies, then those of the bids that have no price; together with its time they are reported
under its name.  The warnings are those about multibid and then those about the names in the
request. -/
theorem holdAuction_reports {response : BidResponse}
    (hresponse : (x.holdAuction now earlier request context).outcome = .ok response) :
    let listed := request.cur.getD []
    let currencyWarnings := if 1 < listed.length then
      [PartnerError.severalCurrencies (listed.headD x.config.defaultCurrency)] else []
    ∃ deadline s m, x.asked now request context = .ok (deadline, s) ∧
      x.mapped now earlier request deadline s = .ok m ∧
      (s.requests.map (·.partner)).Nodup ∧
      (x.dispatched now earlier s).responses.map (fun r => (r.partner, r.code)) =
        s.requests.map (fun q => (q.partner, q.code)) ∧
      List.Forall₂
        (PartnerResponse.SettledInto (x.settlement request) x.catalog x.config.defaultCurrency
          currencyWarnings)
        (x.dispatched now earlier s).responses (x.answers now earlier request s) ∧
      response.Reports (x.answers now earlier request s)
        ((multibidOf request).warnings.map (·.message) ++ s.warnings.map (·.message))
        (m.value.rejections.map (·.message)) := by
  intro listed currencyWarnings
  obtain ⟨deadline, s, m, hasked, hmapped, rfl⟩ := outcome_holdAuction_eq_ok_iff.1 hresponse
  have hnodup := nodup_partners_asked hasked
  have hpartners : (x.answers now earlier request s).map (·.partner) =
      s.requests.map (·.partner) := by
    have hnames := names_answers x now earlier request s
    simpa [Function.comp_def] using congrArg (List.map Prod.fst) hnames
  have hbare : m.value.responses.map (·.withoutBids) =
      (x.answers now earlier request s).map (·.withoutBids) := by
    rw [responses_mapped hmapped]
    exact map_withoutBids_withoutPlaces _ _
  have hmappedNames : (m.value.responses.map (·.partner)).Nodup := by
    have hmap := congrArg (List.map PartnerResponse.partner) hbare
    rw [List.map_map, List.map_map] at hmap
    exact (hmap.trans hpartners) ▸ hnodup
  refine ⟨deadline, s, m, hasked, hmapped, hnodup, names_dispatched _ _ _ s, ?_, ?_⟩
  · have hsettled := settledInto_answers x now earlier request s
    rwa [toList_settlementCurrency] at hsettled
  · exact (reports_assemble hmappedNames).congr hbare

/-- Lists two currencies, names a partner that takes no part, and sets no limit for another one. -/
def listsTwoCurrencies : BidRequest where
  id := "r"
  imps := [{ id := "1", ext := some [("a", .nat 1), ("off", .nat 1)] }]
  cur := some ["USD", "EUR"]
  ext := some { prebid := some { multibid := some [{ bidder := some "a" }] } }

/-- A bid for another imp, one in a currency without a rate, and one that has a price. -/
def mixedBids : List Bid :=
  [{ id := "x", impId := "3", price := .ofNat 1, mediaType := .banner },
   { id := "y", impId := "1", price := .ofNat 1, currency := some "JPY", mediaType := .banner },
   { id := "z", impId := "1", price := .ofNat 1, mediaType := .banner }]

def outcomeOfMixedBids : Except (Fault AuctionError) BidResponse :=
  ((allBid mixedBids).holdAuction 0 [] listsTwoCurrencies {}).outcome

/-- The partner has three errors, one from each stage.  No bid is rejected. -/
theorem holdAuction_reports_mixedBids :
    ∃ response, outcomeOfMixedBids = .ok response ∧
      response.reported? "errors" = some (.object [("a", .array [
        notice 999 "Bid \"x\" has no corresponding imp \"3\" in request",
        notice 2 "Cur parameter contains more than one currency. USD will be used",
        notice 999
          "Unable to convert bid currency JPY to desired ad server currency USD"])]) ∧
      response.reported? "warnings" = some (.object [("general", .array [
        notice 999
          "Invalid MultiBid: MaxBids for bidder a is not specified and will be skipped.",
        notice 999 "Bidder off is disabled and was ignored"])]) ∧
      ∃ deadline s m,
        (allBid mixedBids).asked 0 listsTwoCurrencies {} = .ok (deadline, s) ∧
        (allBid mixedBids).mapped 0 [] listsTwoCurrencies deadline s = .ok m ∧
        response.Reports ((allBid mixedBids).answers 0 [] listsTwoCurrencies s)
          ((multibidOf listsTwoCurrencies).warnings.map (·.message) ++
            s.warnings.map (·.message))
          (m.value.rejections.map (·.message)) := by
  have h : outcomeOfMixedBids = .ok (outcomeOfMixedBids.toOption.getD default) := rfl
  obtain ⟨deadline, s, m, hasked, hmapped, -, -, -, hreports⟩ := holdAuction_reports h
  exact ⟨_, h, rfl, rfl, deadline, s, m, hasked, hmapped, hreports⟩

end Exchange

end AdExchange
