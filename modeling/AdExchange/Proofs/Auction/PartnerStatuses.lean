import AdExchange.Proofs.Auction.Counts

/-!
# What the log says of each partner

The log of an auction has a status for each partner.  It is read off what is left of the partner's
answer once its bids are settled, and so off its bids that have a price and all errors that came up
by then.  Settling adds two kinds of errors: those of the bids that have no price, which only a
partner with bids has, and the warning about several currencies, which every partner gets.  So the
status is what it says, except where the request lists several currencies: there a partner that had
nothing to say counts as one with an error.

## Main definitions

* `PartnerResponse.Silent`, `PartnerResponse.TimedOut` — what a status is about.
* `PartnerStatus.Describes` — a status describes what became of the answer of a partner.

## Main statements

* `PartnerLog.describes_statusOf` — a status describes the response that it is read off.
* `SettledInto.silent_iff`, `SettledInto.timedOut_iff` — what is left of an answer.
* `SettledInto.describes_statusOf_iff` — when a status describes the answer.
* `SettledInto.statusOf_eq_iff` — what a warning changes.
* `Exchange.holdAuction_statuses` — the statuses in the log of an auction.
-/

namespace AdExchange

/-! ## Statuses -/

namespace PartnerResponse

def Silent (r : PartnerResponse) : Prop := r.bids = [] ∧ r.errors = []

def TimedOut (r : PartnerResponse) : Prop := ∃ e ∈ r.errors, e.kind = .timeout

theorem Silent.not_timedOut {r : PartnerResponse} (h : r.Silent) : ¬ r.TimedOut := by
  rintro ⟨e, he, -⟩
  rw [h.2] at he
  cases he

end PartnerResponse

/-- The status describes what became of the answer of a partner: a success if bids are left once
they are settled, else a timeout if one of the errors is one, else no fill if the answer was silent,
and else an error. -/
structure PartnerStatus.Describes (status : PartnerStatus) (answer settled : PartnerResponse) :
    Prop where
  success : status = .success ↔ settled.bids ≠ []
  timeout : status = .timeout ↔ settled.bids = [] ∧ settled.TimedOut
  noFill : status = .noFill ↔ settled.bids = [] ∧ ¬ settled.TimedOut ∧ answer.Silent
  error : status = .error ↔ settled.bids = [] ∧ ¬ settled.TimedOut ∧ ¬ answer.Silent

namespace PartnerStatus.Describes

variable {status status' : PartnerStatus} {answer settled answer' settled' : PartnerResponse}

/-- There is only one status that describes a partner. -/
theorem unique (h : status.Describes answer settled) (h' : status'.Describes answer settled) :
    status = status' := by
  cases status with
  | success => exact (h'.success.2 (h.success.1 rfl)).symm
  | timeout => exact (h'.timeout.2 (h.timeout.1 rfl)).symm
  | noFill => exact (h'.noFill.2 (h.noFill.1 rfl)).symm
  | error => exact (h'.error.2 (h.error.1 rfl)).symm

/-- A status depends on which bids are left, on the timeouts and on whether there was an answer. -/
theorem congr (h : status.Describes answer settled) (hbids : settled'.bids = settled.bids)
    (htimedOut : settled'.TimedOut ↔ settled.TimedOut) (hsilent : answer'.Silent ↔ answer.Silent) :
    status.Describes answer' settled' where
  success := by rw [hbids]; exact h.success
  timeout := by rw [hbids, htimedOut]; exact h.timeout
  noFill := by rw [hbids, htimedOut, hsilent]; exact h.noFill
  error := by rw [hbids, htimedOut, hsilent]; exact h.error

end PartnerStatus.Describes

/-- A status describes the response that it is read off. -/
theorem PartnerLog.describes_statusOf (r : PartnerResponse) :
    (PartnerLog.statusOf r).Describes r r := by
  have hany : (r.errors.any fun e => e.kind == .timeout) = true ↔ r.TimedOut := by
    simp [PartnerResponse.TimedOut]
  by_cases hbids : r.bids = []
  · by_cases htimedOut : r.TimedOut
    · have hstatus : PartnerLog.statusOf r = .timeout := by
        simp [PartnerLog.statusOf, hbids, hany, htimedOut]
      constructor <;> simp [hstatus, hbids, htimedOut]
    · by_cases herrors : r.errors = []
      · have hsilent : r.Silent := ⟨hbids, herrors⟩
        have hstatus : PartnerLog.statusOf r = .noFill := by
          simp [PartnerLog.statusOf, hbids, herrors]
        constructor <;> simp [hstatus, hbids, htimedOut, hsilent]
      · have hsilent : ¬ r.Silent := fun h => herrors h.2
        have hstatus : PartnerLog.statusOf r = .error := by
          simp [PartnerLog.statusOf, hbids, hany, htimedOut, herrors]
        constructor <;> simp [hstatus, hbids, htimedOut, hsilent]
  · have hstatus : PartnerLog.statusOf r = .success := by
      simp [PartnerLog.statusOf, hbids]
    constructor <;> simp [hstatus, hbids]

/-! ## What is left of an answer -/

namespace PartnerResponse

variable {s s' : Settlement} {catalog : Catalog} {default : String}
  {warnings warnings' : List PartnerError} {answer settled settled' : PartnerResponse}

/-- Nothing is left exactly if there was nothing and there is no warning: a bid that has no price
leaves an error. -/
theorem SettledInto.silent_iff (h : answer.SettledInto s catalog default warnings settled) :
    settled.Silent ↔ answer.Silent ∧ warnings = [] := by
  obtain ⟨reasons, herrors, hreasons⟩ := h.errors
  rw [Silent, h.bids, herrors]
  constructor
  · rintro ⟨hbids, hnone⟩
    simp only [List.append_eq_nil_iff] at hnone
    obtain ⟨⟨hquiet, hwarnings⟩, rfl⟩ := hnone
    refine ⟨⟨?_, hquiet⟩, hwarnings⟩
    -- A bid with a price would be left, and one without a price would leave a reason.
    have hpriced := List.filter_eq_nil_iff.1 (List.forall₂_nil_right_iff.1 hreasons)
    have hunpriced := List.filterMap_eq_nil_iff.1 hbids
    refine List.eq_nil_iff_forall_not_mem.2 fun bid hbid => hpriced bid hbid ?_
    exact Option.isNone_iff_eq_none.2 (Option.map_eq_none_iff.1 (hunpriced bid hbid))
  · rintro ⟨⟨hbids, hnone⟩, rfl⟩
    rw [hbids] at hreasons ⊢
    cases hreasons
    simp [hnone]

/-- Settling adds no timeout but those among the warnings. -/
theorem SettledInto.timedOut_iff (h : answer.SettledInto s catalog default warnings settled)
    (hwarnings : ∀ e ∈ warnings, e.kind ≠ .timeout) : settled.TimedOut ↔ answer.TimedOut := by
  obtain ⟨reasons, herrors, hreasons⟩ := h.errors
  constructor
  · rintro ⟨e, he, hkind⟩
    rw [herrors, List.mem_append, List.mem_append] at he
    rcases he with (he | he) | he
    · exact ⟨e, he, hkind⟩
    · exact absurd hkind (hwarnings e he)
    · obtain ⟨bid, -, hgeneric, -⟩ := exists_of_mem_right hreasons he
      rw [hkind] at hgeneric
      cases hgeneric
  · rintro ⟨e, he, hkind⟩
    refine ⟨e, ?_, hkind⟩
    rw [herrors]
    exact List.mem_append_left _ (List.mem_append_left _ he)

/-- A silent answer has no fill, or an error if there is a warning. -/
theorem SettledInto.statusOf_of_silent
    (h : answer.SettledInto s catalog default warnings settled)
    (hwarnings : ∀ e ∈ warnings, e.kind ≠ .timeout) (hsilent : answer.Silent) :
    PartnerLog.statusOf settled = if warnings = [] then .noFill else .error := by
  have hself := PartnerLog.describes_statusOf settled
  have hnone : settled.bids = [] := by
    rw [h.bids, hsilent.1]
    rfl
  have hintime : ¬ settled.TimedOut := by
    rw [h.timedOut_iff hwarnings]
    exact hsilent.not_timedOut
  split
  · next hunwarned => exact hself.noFill.2 ⟨hnone, hintime, h.silent_iff.2 ⟨hsilent, hunwarned⟩⟩
  · next hwarned => exact hself.error.2 ⟨hnone, hintime, fun hs => hwarned (h.silent_iff.1 hs).2⟩

/-- The status describes the answer, unless that was silent and there is a warning. -/
theorem SettledInto.describes_statusOf_iff
    (h : answer.SettledInto s catalog default warnings settled)
    (hwarnings : ∀ e ∈ warnings, e.kind ≠ .timeout) :
    (PartnerLog.statusOf settled).Describes answer settled ↔
      (answer.Silent → warnings = []) := by
  constructor
  · intro hdescribes hsilent
    have hstatus := h.statusOf_of_silent hwarnings hsilent
    by_contra hwarned
    rw [if_neg hwarned] at hstatus
    exact (hdescribes.error.1 hstatus).2.2 hsilent
  · intro hunwarned
    refine (PartnerLog.describes_statusOf settled).congr rfl Iff.rfl ?_
    rw [h.silent_iff]
    exact ⟨fun hsilent => ⟨hsilent, hunwarned hsilent⟩, And.left⟩

/-- Under other warnings the status of an answer with the same bids left is the same, unless the
answer was silent and only one of the two is without a warning. -/
theorem SettledInto.statusOf_eq_iff
    (h : answer.SettledInto s catalog default warnings settled)
    (h' : answer.SettledInto s' catalog default warnings' settled')
    (hwarnings : ∀ e ∈ warnings, e.kind ≠ .timeout)
    (hwarnings' : ∀ e ∈ warnings', e.kind ≠ .timeout) (hbids : settled.bids = settled'.bids) :
    PartnerLog.statusOf settled' = PartnerLog.statusOf settled ↔
      (answer.Silent → (warnings' = [] ↔ warnings = [])) := by
  by_cases hsilent : answer.Silent
  · rw [h.statusOf_of_silent hwarnings hsilent, h'.statusOf_of_silent hwarnings' hsilent]
    by_cases hw : warnings = [] <;> by_cases hw' : warnings' = [] <;> simp [hw, hw', hsilent]
  · -- Both statuses describe the answer, and they read the same of it.
    have hdescribes := (h.describes_statusOf_iff hwarnings).2 (absurd · hsilent)
    have hdescribes' := (h'.describes_statusOf_iff hwarnings').2 (absurd · hsilent)
    have htimedOut : settled.TimedOut ↔ settled'.TimedOut :=
      (h.timedOut_iff hwarnings).trans (h'.timedOut_iff hwarnings').symm
    exact iff_of_true ((hdescribes'.congr hbids htimedOut Iff.rfl).unique hdescribes)
      (absurd · hsilent)

end PartnerResponse

/-! ## The log of an auction -/

def BidRequest.ListsSeveral (request : BidRequest) : Prop := 1 < (request.cur.getD []).length

def BidRequest.withCurrencies (request : BidRequest) (listed : List String) : BidRequest :=
  { request with cur := some listed }

section

variable (request : BidRequest) (default : String)

/-- There is a warning exactly if several currencies are listed. -/
theorem warning_eq_nil_iff :
    (settlementCurrency request default).2.toList = [] ↔ ¬ request.ListsSeveral := by
  rw [toList_settlementCurrency, BidRequest.ListsSeveral]
  split <;> simp_all

/-- The warning is no timeout. -/
theorem kind_of_mem_warning :
    ∀ e ∈ (settlementCurrency request default).2.toList, e.kind ≠ .timeout := by
  intro e he
  rw [toList_settlementCurrency] at he
  split at he
  · cases List.mem_singleton.1 he
    intro hkind
    cases hkind
  · cases he

end

namespace Exchange

variable {x : Exchange} {now : Nat} {earlier : List HttpCall} {request : BidRequest}
  {context : AuctionContext} {deadline : Deadline} {s : ScopedRequests}

/-- The answers in one currency, one by one. -/
theorem getElem?_answers (i : Nat) :
    (x.answers now earlier request s)[i]? = ((x.dispatched now earlier s).responses[i]?).map
      (PartnerResponse.settle (x.settlement request) x.catalog x.config.defaultCurrency
        (settlementCurrency request x.config.defaultCurrency).2) := by
  rw [answers, normalize, List.getElem?_map]
  rfl

/-- The bids that are left of an answer do not depend on the currencies behind the first one. -/
theorem bids_settle_withCurrencies {listed : List String}
    (hfirst : listed.head? = (request.cur.getD []).head?) (answer : PartnerResponse)
    (warning warning' : Option PartnerError) :
    (answer.settle (x.settlement (request.withCurrencies listed)) x.catalog
        x.config.defaultCurrency warning').bids =
      (answer.settle (x.settlement request) x.catalog x.config.defaultCurrency warning).bids := by
  have hcurrency : (settlementCurrency (request.withCurrencies listed)
      x.config.defaultCurrency).1 = (settlementCurrency request x.config.defaultCurrency).1 := by
    simp only [settlementCurrency_eq, BidRequest.withCurrencies, Option.getD_some,
      List.headD_eq_head?_getD, hfirst]
  rw [settlement, settlement, hcurrency]
  rfl

/-- The status of a partner describes what became of its answer, unless the answer was silent and
the request lists several currencies; then it is an error.  With any other currencies behind the
first one the same answer has the same status, unless it was silent and only one of the two lists
has several currencies. -/
theorem holdAuction_statuses {i : Nat} {log : PartnerLog}
    (hasked : x.asked now request context = .ok (deadline, s))
    (hlog : (x.holdAuction now earlier request context).log.partnerLogs[i]? = some log) :
    ∃ answer settled,
      (x.dispatched now earlier s).responses[i]? = some answer ∧
      (x.answers now earlier request s)[i]? = some settled ∧ log = PartnerLog.of settled ∧
      (log.status.Describes answer settled ↔ (answer.Silent → ¬ request.ListsSeveral)) ∧
      (answer.Silent → request.ListsSeveral → log.status = .error) ∧
      ∀ listed : List String, listed.head? = (request.cur.getD []).head? →
        ∃ other, (x.answers now earlier (request.withCurrencies listed) s)[i]? = some other ∧
          (PartnerLog.statusOf other = log.status ↔
            (answer.Silent → (1 < listed.length ↔ request.ListsSeveral))) := by
  rw [partnerLogs_holdAuction hasked, List.getElem?_map, Option.map_eq_some_iff] at hlog
  obtain ⟨settled, hsettled, rfl⟩ := hlog
  have hturn := hsettled
  rw [getElem?_answers, Option.map_eq_some_iff] at hturn
  obtain ⟨answer, hanswer, rfl⟩ := hturn
  have hinto := settledInto_settle (x.settlement request) x.catalog x.config.defaultCurrency
    (settlementCurrency request x.config.defaultCurrency).2 answer
  have hwarnings := kind_of_mem_warning request x.config.defaultCurrency
  have hnil := warning_eq_nil_iff request x.config.defaultCurrency
  refine ⟨answer, _, hanswer, hsettled, rfl, ?_, ?_, ?_⟩
  · rw [← hnil]
    exact hinto.describes_statusOf_iff hwarnings
  · intro hsilent hseveral
    have hstatus := hinto.statusOf_of_silent hwarnings hsilent
    rwa [if_neg fun h => hnil.1 h hseveral] at hstatus
  · intro listed hfirst
    refine ⟨_, by rw [getElem?_answers, hanswer]; rfl, ?_⟩
    have hinto' := settledInto_settle (x.settlement (request.withCurrencies listed)) x.catalog
      x.config.defaultCurrency
      (settlementCurrency (request.withCurrencies listed) x.config.defaultCurrency).2 answer
    refine (hinto.statusOf_eq_iff hinto' hwarnings (kind_of_mem_warning _ _)
      (bids_settle_withCurrencies hfirst answer _ _).symm).trans ?_
    rw [hnil, warning_eq_nil_iff, not_iff_not]
    rfl

def askedInTwoCurrencies : Deadline × ScopedRequests :=
  ((allBid []).asked 0 listsTwoCurrencies {}).toOption.getD default

/-- A partner that has no bids counts as one with an error if the request lists two currencies, and
as one without fill if it lists the first of them alone. -/
theorem holdAuction_statuses_noBids : ∃ log answer settled other,
    (allBid []).asked 0 listsTwoCurrencies {} = .ok askedInTwoCurrencies ∧
    ((allBid []).holdAuction 0 [] listsTwoCurrencies {}).log.partnerLogs[0]? = some log ∧
    ((allBid []).dispatched 0 [] askedInTwoCurrencies.2).responses[0]? = some answer ∧
    answer.Silent ∧
    ((allBid []).answers 0 [] listsTwoCurrencies askedInTwoCurrencies.2)[0]? = some settled ∧
    log.status = .error ∧ ¬ log.status.Describes answer settled ∧
    ((allBid []).answers 0 [] (listsTwoCurrencies.withCurrencies ["USD"])
      askedInTwoCurrencies.2)[0]? = some other ∧
    PartnerLog.statusOf other = .noFill ∧ PartnerLog.statusOf other ≠ log.status := by
  have hasked : (allBid []).asked 0 listsTwoCurrencies {} =
      .ok (askedInTwoCurrencies.1, askedInTwoCurrencies.2) := rfl
  have hseveral : listsTwoCurrencies.ListsSeveral := by
    rw [BidRequest.ListsSeveral]
    decide
  obtain ⟨log, hlog, hstatus⟩ : ∃ log,
      ((allBid []).holdAuction 0 [] listsTwoCurrencies {}).log.partnerLogs[0]? = some log ∧
      log.status = .error := ⟨_, rfl, by decide +kernel⟩
  obtain ⟨answer, settled, hanswer, hsettled, -, hdescribes, -, hothers⟩ :=
    holdAuction_statuses hasked hlog
  have hsilent : answer.Silent := by
    have hall : (((allBid []).dispatched 0 [] askedInTwoCurrencies.2).responses[0]?).map
        (fun r => (r.bids.length, r.errors)) = some (0, []) := by decide +kernel
    rw [hanswer] at hall
    obtain ⟨hbids, herrors⟩ := Prod.mk.inj (Option.some.inj hall)
    exact ⟨List.length_eq_zero_iff.1 hbids, herrors⟩
  obtain ⟨other, hother, hsame⟩ := hothers ["USD"] rfl
  have hnoFill : PartnerLog.statusOf other = .noFill := by
    have hall : (((allBid []).answers 0 [] (listsTwoCurrencies.withCurrencies ["USD"])
        askedInTwoCurrencies.2)[0]?).map PartnerLog.statusOf = some .noFill := by decide +kernel
    rw [hother] at hall
    exact Option.some.inj hall
  refine ⟨log, answer, settled, other, hasked, hlog, hanswer, hsilent, hsettled, hstatus, ?_,
    hother, hnoFill, ?_⟩
  · rw [hdescribes]
    exact fun h => h hsilent hseveral
  · intro heq
    exact absurd ((hsame.1 heq hsilent).2 hseveral) (by decide)

end Exchange

end AdExchange
