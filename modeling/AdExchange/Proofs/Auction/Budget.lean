import AdExchange.Proofs.Auction.Attribution

/-!
# Auctions for which there is no time

An auction fails for want of time if what is left when it starts does not exceed what is kept back
for caching its bids.  Later stages find no such error: what they find wrong is the fault of the
request.  Only the privacy service may say so too, as its errors are passed on as they are.

The settings of an exchange are checked against each other before it starts.  The check compares
the time for caching with the longest time of an auction, and not with the time of an auction for
which none is asked.  So the settings may keep back all the time of such an auction.

## Main definitions

* `AuctionRun.Exhausted` — an auction failed for want of time.
* `PrivacyService.ReportsExhausted` — the privacy service says that there is no time.
* `NoTimeAsked` — neither the caller nor the request asks for a time.
* `ExchangeConfig.KeepsBackAll` — the settings keep back all the time of such an auction.

## Main statements

* `status_of_scope_error`, `status_of_mapCategories_error` — errors that are the request's fault.
* `Exchange.exhausted_iff` — when an auction fails for want of time.
* `ExchangeConfig.validate_eq_ok_iff` — which settings pass the check.
* `Exchange.timeLeft_le_reserved_iff` — when checked settings leave no time.
* `Exchange.holdAuction_leaves_budget` — what checked settings leave to auctions.
-/

namespace AdExchange

/-! ## The fault of the request -/

namespace BidRequest

variable {r : BidRequest} {e : AuctionError}

theorem status_of_mergeSection_error {α : Type} {form : JsonForm} {read : RawJson → Option α}
    {write : α → Json} {present : Option α} {fragment : Option Json}
    (h : mergeSection form read write present fragment = .error e) : e.status = 400 := by
  cases fragment with
  | none => cases h
  | some fragment =>
    rw [mergeSection] at h
    split at h <;> cases h
    rfl

theorem status_of_mergeFragments_error {f : OrtbFragments} (h : r.mergeFragments f = .error e) :
    e.status = 400 := by
  simp only [mergeFragments, bind_eq_error_iff] at h
  rcases h with h | ⟨site, -, h | ⟨app, -, h | ⟨user, -, h⟩⟩⟩
  · exact status_of_mergeSection_error h
  · exact status_of_mergeSection_error h
  · exact status_of_mergeSection_error h
  · split at h <;> cases h
    rfl

theorem status_of_sectionsFor_error {partner : String} (h : r.sectionsFor partner = .error e) :
    e.status = 400 := by
  rw [sectionsFor] at h
  split at h
  · split at h
    · exact status_of_mergeFragments_error h
    · cases h
  · cases h

theorem status_of_scopeFor_error {partner code : String} {multibid : Option MultiBid}
    (h : r.scopeFor partner code multibid = .error e) : e.status = 400 := by
  rw [scopeFor, bind_eq_error_iff] at h
  rcases h with h | ⟨own, -, h⟩
  · exact status_of_sectionsFor_error h
  · cases h

end BidRequest

/-- If a request cannot be taken apart, that is its own fault. -/
theorem status_of_scope_error {request : BidRequest} {catalog : Catalog}
    {multibid : Dictionary MultiBid} {decisions : List PrivacyDecision} {deadline : Deadline}
    {now : Nat} {e : AuctionError}
    (h : scope request catalog multibid decisions deadline now = .error e) : e.status = 400 := by
  rw [scope] at h
  split at h
  · cases h
    rfl
  · rcases bind_eq_error_iff.1 h with h | ⟨parts, -, h⟩
    · obtain ⟨name, -, h⟩ := exists_of_mapM_eq_error h
      rw [contribution] at h
      split at h
      · cases h
      · cases h
      · cases h
      · rcases bind_eq_error_iff.1 h with h | ⟨own, -, h⟩
        · exact BidRequest.status_of_scopeFor_error h
        · cases h
    · cases h

theorem MappingRules.status_of_adServerOf_error {brand : BrandCategory} {e : AuctionError}
    (h : adServerOf brand = .error e) : e.status = 400 := by
  rw [adServerOf] at h
  split at h
  · split at h
    · cases h
      rfl
    · split at h
      · cases h
        rfl
      · split at h <;> cases h
        rfl
  · cases h

theorem MappingRules.status_of_ofTargeting_error {brand : BrandCategory} {targeting : Targeting}
    {e : AuctionError} (h : ofTargeting brand targeting = .error (.error e)) : e.status = 400 := by
  rw [ofTargeting] at h
  split at h
  · next hserver =>
    cases h
    exact status_of_adServerOf_error hserver
  · dsimp only at h
    split at h
    · cases h
      rfl
    · split at h <;> cases h
      rfl

/-- If bids cannot be mapped to categories, that is the fault of the request. -/
theorem status_of_mapCategories_error {store : CategoryStore} {lookupTimeout : Nat}
    {targeting : Targeting} {deadline : Deadline} {now : Nat} {responses : List PartnerResponse}
    {e : AuctionError}
    (h : mapCategories store lookupTimeout targeting deadline now responses = .error (.error e)) :
    e.status = 400 := by
  rw [mapCategories] at h
  split at h
  · cases h
  · rcases bind_eq_error_iff.1 h with h | ⟨rules, -, h⟩
    · exact MappingRules.status_of_ofTargeting_error h
    · split at h <;> cases h

/-! ## Want of time -/

/-- An auction that failed for want of time. -/
def AuctionRun.Exhausted (run : AuctionRun) : Prop :=
  ∃ e, run.outcome = .error (.error e) ∧ e.kind = .deadlineExhausted

/-- Asked about the partners of a request, the privacy service says that there is no time. -/
def PrivacyService.ReportsExhausted (privacy : PrivacyService) (request : BidRequest) : Prop :=
  ∃ e, privacy request request.partnerNames = .error e ∧ e.kind = .deadlineExhausted

theorem PrivacyService.not_reportsExhausted_passThrough (request : BidRequest) :
    ¬ passThrough.ReportsExhausted request := by
  rintro ⟨e, h, -⟩
  cases h

theorem AuctionError.kind_ne_of_status {e : AuctionError} (h : e.status = 400) :
    e.kind ≠ .deadlineExhausted := by
  intro hkind
  rw [status, hkind] at h
  cases h

namespace Exchange

variable {x : Exchange} {now : Nat} {earlier : List HttpCall} {request : BidRequest}
  {context : AuctionContext}

/-- The time that is left of an auction that starts at `now`. -/
def timeLeft (x : Exchange) (now : Nat) (request : BidRequest) (context : AuctionContext) : Nat :=
  (Deadline.ofTmax context.startTime (x.tmax request context)).remaining now

/-- Too little time is left: the auction fails before the privacy service is asked. -/
theorem asked_of_timeLeft_le (h : x.timeLeft now request context ≤ x.reserved request) :
    x.asked now request context =
      .error (.deadlineExhausted (x.timeLeft now request context) (x.reserved request)) := by
  rw [asked, Deadline.reserve, ← timeLeft, if_pos h, error_bind]

/-- Enough time is left: the auction has a deadline that has not passed. -/
theorem exists_deadline_of_lt_timeLeft (h : x.reserved request < x.timeLeft now request context) :
    ∃ deadline : Deadline,
      (Deadline.ofTmax context.startTime (x.tmax request context)).reserve now
        (x.reserved request) = .ok deadline ∧
      deadline.remaining now + x.reserved request = x.timeLeft now request context := by
  rw [Deadline.reserve, ← timeLeft, if_neg (by omega)]
  refine ⟨_, rfl, ?_⟩
  simp only [timeLeft, Deadline.remaining] at h ⊢
  omega

theorem status_of_mapped_error {deadline : Deadline} {s : ScopedRequests} {e : AuctionError}
    (h : x.mapped now earlier request deadline s = .error (.error e)) : e.status = 400 := by
  rw [mapped, mapResponses] at h
  split at h
  · cases h
  · exact status_of_mapCategories_error h

/-- Taking the request apart finds no want of time, but the privacy service may. -/
theorem scopeRequest_exhausted_iff {deadline : Deadline} :
    (∃ e, x.scopeRequest request deadline now = .error e ∧ e.kind = .deadlineExhausted) ↔
      x.privacy.ReportsExhausted request := by
  simp only [scopeRequest, bind_eq_error_iff, PrivacyService.ReportsExhausted]
  constructor
  · rintro ⟨e, he | ⟨decisions, -, he⟩, hkind⟩
    · exact ⟨e, he, hkind⟩
    · exact absurd hkind (AuctionError.kind_ne_of_status (status_of_scope_error he))
  · rintro ⟨e, he, hkind⟩
    exact ⟨e, .inl he, hkind⟩

/-- An auction fails for want of time before it asks the partners, or not at all. -/
theorem exhausted_iff_asked :
    (x.holdAuction now earlier request context).Exhausted ↔
      ∃ e, x.asked now request context = .error e ∧ e.kind = .deadlineExhausted := by
  simp only [AuctionRun.Exhausted, outcome_holdAuction_eq_error_iff]
  constructor
  · rintro ⟨e, he | ⟨deadline, s, -, he⟩, hkind⟩
    · exact ⟨e, he, hkind⟩
    · exact absurd hkind (AuctionError.kind_ne_of_status (status_of_mapped_error he))
  · rintro ⟨e, he, hkind⟩
    exact ⟨e, .inl he, hkind⟩

/-- An auction fails for want of time exactly if the time that is left when it starts does not
exceed what is kept back, or if the privacy service says so. -/
theorem exhausted_iff :
    (x.holdAuction now earlier request context).Exhausted ↔
      x.timeLeft now request context ≤ x.reserved request ∨ x.privacy.ReportsExhausted request := by
  rw [exhausted_iff_asked]
  by_cases h : x.timeLeft now request context ≤ x.reserved request
  · rw [asked_of_timeLeft_le h]
    exact ⟨fun _ => .inl h, fun _ => ⟨_, rfl, rfl⟩⟩
  · obtain ⟨deadline, hdeadline, -⟩ := exists_deadline_of_lt_timeLeft (Nat.lt_of_not_le h)
    -- Once there is a deadline, only the privacy service is left to say so.
    have hscope : (∃ e, x.scopeRequest request deadline now = .error e ∧
        e.kind = .deadlineExhausted) ↔ x.privacy.ReportsExhausted request :=
      scopeRequest_exhausted_iff
    rw [or_iff_right h, ← hscope]
    simp [asked, hdeadline, bind_eq_error_iff, pure, Except.pure]

end Exchange

/-! ## What checked settings leave -/

/-- Neither the caller nor the request asks for a time.  To ask for no time at all is the same. -/
def NoTimeAsked (request : BidRequest) (context : AuctionContext) : Prop :=
  ∀ t ∈ context.timeoutMs.or request.tmax, t = 0

namespace ExchangeConfig

variable {c : ExchangeConfig}

/-- The settings that pass the check. -/
theorem validate_eq_ok_iff :
    c.validate = .ok () ↔ c.defaultTimeoutMs ≠ 0 ∧ c.maxTimeoutMs ≠ 0 ∧
      c.expectedCacheTimeMs < c.maxTimeoutMs ∧ c.defaultCurrency.utf8ByteSize = 3 := by
  rw [validate]
  split_ifs with htimeouts hcache hcurrency <;> grind

/-- For which no time is asked, an auction gets the default, and never more than the maximum. -/
theorem toNat_resolveTimeout {requested : Option UInt64} (h : ∀ t ∈ requested, t = 0) :
    (c.resolveTimeout requested).toNat = min c.defaultTimeoutMs.toNat c.maxTimeoutMs.toNat := by
  have hnone : requested.filter (0 < ·) = none := by
    rw [Option.filter_eq_none_iff]
    intro t ht
    simp [h t ht]
  rw [resolveTimeout, hnone, Option.getD_none, Std.min_eq_if, Nat.min_def, apply_ite UInt64.toNat]
  rfl

/-- The bids of a request are to be cached, and the time for that is all the time of an auction for
which none is asked. -/
def KeepsBackAll (c : ExchangeConfig) (request : BidRequest) : Prop :=
  request.cachingRequested = true ∧ c.defaultTimeoutMs ≤ c.expectedCacheTimeMs

end ExchangeConfig

namespace Exchange

variable {x : Exchange} {earlier : List HttpCall} {request : BidRequest} {context : AuctionContext}

/-- The time of an auction that starts when its request comes in, if none is asked for it. -/
theorem timeLeft_of_noTimeAsked (h : NoTimeAsked request context) :
    x.timeLeft context.startTime request context =
      min x.config.defaultTimeoutMs.toNat x.config.maxTimeoutMs.toNat := by
  rw [timeLeft, Deadline.remaining_ofTmax, tmax, ExchangeConfig.toNat_resolveTimeout h]

/-- If the settings have been checked, what is kept back is all the time only if it is the whole
default.  The maximum is greater, and without caching nothing is kept back. -/
theorem timeLeft_le_reserved_iff (hvalid : x.config.validate = .ok ())
    (h : NoTimeAsked request context) :
    x.timeLeft context.startTime request context ≤ x.reserved request ↔
      x.config.KeepsBackAll request := by
  obtain ⟨hdefault, hmax, hcache, -⟩ := ExchangeConfig.validate_eq_ok_iff.1 hvalid
  have hpos : 0 < min x.config.defaultTimeoutMs.toNat x.config.maxTimeoutMs.toNat := by
    rw [Nat.lt_min, Nat.pos_iff_ne_zero, Nat.pos_iff_ne_zero]
    exact ⟨fun hzero => hdefault (UInt64.toNat_inj.1 hzero),
      fun hzero => hmax (UInt64.toNat_inj.1 hzero)⟩
  rw [UInt64.lt_iff_toNat_lt] at hcache
  rw [timeLeft_of_noTimeAsked h, reserved, ExchangeConfig.KeepsBackAll, UInt64.le_iff_toNat_le]
  cases request.cachingRequested with
  | false => simpa using Nat.pos_iff_ne_zero.1 hpos
  | true =>
    simp only [if_true, true_and]
    omega

theorem exhausted_iff_keepsBackAll (hvalid : x.config.validate = .ok ())
    (h : NoTimeAsked request context) :
    (x.holdAuction context.startTime earlier request context).Exhausted ↔
      x.config.KeepsBackAll request ∨ x.privacy.ReportsExhausted request := by
  rw [exhausted_iff, timeLeft_le_reserved_iff hvalid h]

/-- An auction whose time is all kept back ends at once.  The error says what the settings are. -/
theorem holdAuction_of_keepsBackAll (hvalid : x.config.validate = .ok ())
    (h : NoTimeAsked request context) (hkeeps : x.config.KeepsBackAll request) :
    x.holdAuction context.startTime earlier request context =
      x.failed context (x.openingLog context.startTime request context) context.startTime []
        (.error (.deadlineExhausted x.config.defaultTimeoutMs.toNat
          x.config.expectedCacheTimeMs.toNat)) := by
  obtain ⟨-, -, hcache, -⟩ := ExchangeConfig.validate_eq_ok_iff.1 hvalid
  have hshort : x.timeLeft context.startTime request context ≤ x.reserved request :=
    (timeLeft_le_reserved_iff hvalid h).2 hkeeps
  obtain ⟨hcaching, hle⟩ := hkeeps
  have hkept : x.reserved request = x.config.expectedCacheTimeMs.toNat := by
    rw [reserved, if_pos hcaching]
  have hleft : x.timeLeft context.startTime request context =
      x.config.defaultTimeoutMs.toNat := by
    rw [UInt64.lt_iff_toNat_lt] at hcache
    rw [UInt64.le_iff_toNat_le] at hle
    rw [timeLeft_of_noTimeAsked h]
    omega
  rw [holdAuction_of_error (asked_of_timeLeft_le hshort), hkept, hleft]

/-- Any other auction has time for its partners. -/
theorem exists_deadline_of_not_keepsBackAll (hvalid : x.config.validate = .ok ())
    (h : NoTimeAsked request context) (hkeeps : ¬ x.config.KeepsBackAll request) :
    ∃ deadline : Deadline,
      (Deadline.ofTmax context.startTime (x.tmax request context)).reserve context.startTime
        (x.reserved request) = .ok deadline ∧
      0 < deadline.remaining context.startTime ∧
      deadline.remaining context.startTime + x.reserved request =
        min x.config.defaultTimeoutMs.toNat x.config.maxTimeoutMs.toNat := by
  have hlt : x.reserved request < x.timeLeft context.startTime request context := by
    rw [← Nat.not_le, timeLeft_le_reserved_iff hvalid h]
    exact hkeeps
  obtain ⟨deadline, hdeadline, hremaining⟩ := exists_deadline_of_lt_timeLeft hlt
  exact ⟨deadline, hdeadline, by omega, by rw [hremaining, timeLeft_of_noTimeAsked h]⟩

/-- Offers one imp, and wants the bids for it cached. -/
def cachedOffer : BidRequest where
  id := "r"
  imps := [{ id := "1", ext := some [("a", .nat 1)] }]
  ext := some { prebid := some { cache := some (.object []) } }

theorem noTimeAsked_cachedOffer : NoTimeAsked cachedOffer {} := by
  intro t ht
  cases ht

/-- Let the settings be checked, let no time be asked for an auction and let it start when its
request comes in.  It fails for want of time exactly if all its time is kept back for caching, or
if the privacy service says so.  If all its time is kept back, it ends at once and calls nobody;
else it has time for its partners.  So checked settings leave time for all such auctions exactly if
the time for caching is less than the default. -/
theorem holdAuction_leaves_budget (hvalid : x.config.validate = .ok ()) :
    (∀ earlier request context, NoTimeAsked request context →
      let run := x.holdAuction context.startTime earlier request context
      (run.Exhausted ↔ x.config.KeepsBackAll request ∨ x.privacy.ReportsExhausted request) ∧
      (x.config.KeepsBackAll request →
        run.outcome = .error (.error (.deadlineExhausted x.config.defaultTimeoutMs.toNat
          x.config.expectedCacheTimeMs.toNat)) ∧
        run.finished = context.startTime ∧ run.calls = []) ∧
      (¬ x.config.KeepsBackAll request → ∃ deadline : Deadline,
        (Deadline.ofTmax context.startTime (x.tmax request context)).reserve context.startTime
          (x.reserved request) = .ok deadline ∧
        0 < deadline.remaining context.startTime ∧
        deadline.remaining context.startTime + x.reserved request =
          min x.config.defaultTimeoutMs.toNat x.config.maxTimeoutMs.toNat)) ∧
    ((∀ request, ¬ x.privacy.ReportsExhausted request) →
      ((∀ earlier request context, NoTimeAsked request context →
          ¬ (x.holdAuction context.startTime earlier request context).Exhausted) ↔
        x.config.expectedCacheTimeMs < x.config.defaultTimeoutMs)) := by
  refine ⟨fun earlier request context h => ⟨exhausted_iff_keepsBackAll hvalid h, ?_,
    exists_deadline_of_not_keepsBackAll hvalid h⟩, fun hprivacy => ⟨?_, ?_⟩⟩
  · intro hkeeps
    rw [holdAuction_of_keepsBackAll hvalid h hkeeps]
    exact ⟨rfl, rfl, rfl⟩
  · intro hnever
    -- Otherwise any auction of a request for caching would have no time.
    by_contra hnot
    have hkeeps : x.config.KeepsBackAll cachedOffer := ⟨rfl, UInt64.not_lt.1 hnot⟩
    exact hnever [] cachedOffer {} noTimeAsked_cachedOffer
      ((exhausted_iff_keepsBackAll hvalid noTimeAsked_cachedOffer).2 (.inl hkeeps))
  · intro hlt earlier request context h hexhausted
    rcases (exhausted_iff_keepsBackAll hvalid h).1 hexhausted with ⟨-, hle⟩ | hreports
    · exact UInt64.not_le.2 hlt hle
    · exact hprivacy request hreports

/-- An exchange that keeps back so many milliseconds for caching, with all else as by default. -/
def keepingBack (ms : UInt64) : Exchange :=
  { allBid [] with config := { expectedCacheTimeMs := ms } }

/-- The partner is asked if a millisecond of the default is left for it, and not if none is. -/
theorem holdAuction_leaves_budget_cachedOffer :
    let run := fun ms => (keepingBack ms).holdAuction 0 [] cachedOffer {}
    (keepingBack 499).config.validate = .ok () ∧ (keepingBack 500).config.validate = .ok () ∧
    (run 499).calls.length = 1 ∧ ¬ (run 499).Exhausted ∧
    (run 500).outcome = .error (.error (.deadlineExhausted 500 500)) ∧ (run 500).Exhausted := by
  intro run
  have hvalid : (keepingBack 499).config.validate = .ok () := rfl
  have hvalid' : (keepingBack 500).config.validate = .ok () := rfl
  have hleft := (holdAuction_leaves_budget hvalid).2 PrivacyService.not_reportsExhausted_passThrough
  obtain ⟨hexhausted, hends, -⟩ :=
    (holdAuction_leaves_budget hvalid').1 [] cachedOffer {} noTimeAsked_cachedOffer
  have hkeeps : (keepingBack 500).config.KeepsBackAll cachedOffer := ⟨rfl, by decide⟩
  exact ⟨hvalid, hvalid', rfl, hleft.2 (by decide) [] cachedOffer {} noTimeAsked_cachedOffer,
    (hends hkeeps).1, hexhausted.2 (.inl hkeeps)⟩

end Exchange

end AdExchange
