import AdExchange.Price.Normalization
import AdExchange.Proofs.Results

/-!
# Every bid has a price or an error

A bid has a price in the settlement currency if it can be converted, from its own currency or that
of its partner, and if the factor of its partner does not make it too large.  The bids that have a
price go on at that price, in their order.  Each of the others leaves one generic error with its
partner, in the order of the bids.  A bid's price depends on the bid, its partner and the request
alone, so no bid is dropped because of another one.
-/

namespace AdExchange

/-- The currency that a bid is made in: its own, else that of its partner in the catalog, else that
of the exchange. -/
def Bid.offeredIn (catalog : Catalog) (default code : String) (bid : Bid) : String :=
  (bid.currency.or ((catalog.get? code).map (·.defaultCurrency))).getD default

/-! ## One bid -/

namespace Settlement

/-- The price of a bid that is made in the currency `source`: what it is converted to, times the
factor of its partner if there is one. -/
def price? (s : Settlement) (partner source : String) (bid : Bid) : Option Decimal :=
  (s.rates.convert s.request bid.price source s.currency).toOption.bind fun converted =>
    match adjustmentFactor? s.request partner bid with
    | none => some converted
    | some factor => converted.mul? factor

/-- Why a bid has no price: it cannot be converted, or what it is converted to does not fit once it
is multiplied with the factor. -/
inductive Refuses (s : Settlement) (partner source : String) (bid : Bid) : PartnerError → Prop where
  | conversion {reason : ConversionError}
    (h : s.rates.convert s.request bid.price source s.currency = .error reason) :
    Refuses s partner source bid (.conversion reason)
  | factor {converted factor : Decimal}
    (hconverted : s.rates.convert s.request bid.price source s.currency = .ok converted)
    (hfactor : adjustmentFactor? s.request partner bid = some factor)
    (h : converted.mul? factor = none) :
    Refuses s partner source bid (.factorOverflow factor)

variable {s : Settlement} {partner source : String} {bid : Bid}

/-- A bid has a price exactly if it can be converted and the factor leaves a price that fits. -/
theorem price?_eq_some_iff {price : Decimal} :
    s.price? partner source bid = some price ↔
      ∃ converted, s.rates.convert s.request bid.price source s.currency = .ok converted ∧
        (adjustmentFactor? s.request partner bid = none ∧ price = converted ∨
          ∃ factor, adjustmentFactor? s.request partner bid = some factor ∧
            converted.mul? factor = some price) := by
  rw [price?]
  cases s.rates.convert s.request bid.price source s.currency with
  | error reason => simp [Except.toOption]
  | ok converted =>
    cases adjustmentFactor? s.request partner bid with
    | none => simp [Except.toOption, eq_comm]
    | some factor => simp [Except.toOption]

/-- Whatever leaves a bid without a price is a generic error. -/
theorem Refuses.kind_eq {e : PartnerError} (h : s.Refuses partner source bid e) :
    e.kind = .generic := by
  cases h with
  | conversion => rfl
  | factor => rfl

end Settlement

namespace Bid

variable {s : Settlement} {partner fallback : String} {bid : Bid}

/-- The course of settling a bid, without the monad. -/
theorem settle_eq :
    bid.settle s partner fallback =
      match s.rates.convert s.request bid.price (bid.currency.getD fallback) s.currency with
      | .error reason => .error (.conversion reason)
      | .ok converted =>
        match adjustmentFactor? s.request partner bid with
        | none => .ok (bid.normalized converted s.currency (bid.currency.getD fallback))
        | some factor =>
          match converted.mul? factor with
          | none => .error (.factorOverflow factor)
          | some price =>
            .ok (bid.normalized price s.currency (bid.currency.getD fallback)) := by
  rw [settle]
  cases s.rates.convert s.request bid.price (bid.currency.getD fallback) s.currency with
  | error reason => rfl
  | ok converted =>
    simp only [Except.mapError, ok_bind]
    cases adjustmentFactor? s.request partner bid with
    | none => rfl
    | some factor =>
      dsimp only
      cases converted.mul? factor with
      | none => rfl
      | some price => rfl

/-- A bid goes on at its price, with a note of the price and the currency that it was made in. -/
theorem settle_eq_ok_iff {settled : Bid} :
    bid.settle s partner fallback = .ok settled ↔
      ∃ price, s.price? partner (bid.currency.getD fallback) bid = some price ∧
        settled = bid.normalized price s.currency (bid.currency.getD fallback) := by
  rw [settle_eq, Settlement.price?]
  cases s.rates.convert s.request bid.price (bid.currency.getD fallback) s.currency with
  | error reason => simp [Except.toOption]
  | ok converted =>
    cases adjustmentFactor? s.request partner bid with
    | none => simp [Except.toOption, eq_comm]
    | some factor =>
      cases hm : converted.mul? factor with
      | none => simp [Except.toOption, hm]
      | some price => simp [Except.toOption, hm, eq_comm]

/-- A bid is dropped for the reason that it has no price. -/
theorem settle_eq_error_iff {e : PartnerError} :
    bid.settle s partner fallback = .error e ↔
      s.Refuses partner (bid.currency.getD fallback) bid e := by
  rw [settle_eq]
  constructor
  · intro h
    cases hc : s.rates.convert s.request bid.price (bid.currency.getD fallback) s.currency with
    | error reason =>
      rw [hc] at h
      cases h
      exact .conversion hc
    | ok converted =>
      cases hf : adjustmentFactor? s.request partner bid with
      | none => simp [hc, hf] at h
      | some factor =>
        cases hm : converted.mul? factor with
        | some price => simp [hc, hf, hm] at h
        | none =>
          obtain rfl : PartnerError.factorOverflow factor = e := by simpa [hc, hf, hm] using h
          exact .factor hc hf hm
  · rintro (hc | ⟨hc, hf, hm⟩)
    · rw [hc]
    · simp only [hc, hf, hm]

theorem toOption_settle :
    (bid.settle s partner fallback).toOption =
      (s.price? partner (bid.currency.getD fallback) bid).map fun price =>
        bid.normalized price s.currency (bid.currency.getD fallback) := by
  cases h : bid.settle s partner fallback with
  | ok settled =>
    obtain ⟨price, hprice, rfl⟩ := settle_eq_ok_iff.1 h
    simp [hprice, Except.toOption]
  | error e =>
    cases hp : s.price? partner (bid.currency.getD fallback) bid with
    | none => rfl
    | some price =>
      rw [settle_eq_ok_iff.2 ⟨price, hp, rfl⟩] at h
      cases h

end Bid

theorem Bid.offeredIn_eq (catalog : Catalog) (default code : String) (bid : Bid) :
    bid.offeredIn catalog default code = bid.currency.getD (bidCurrency catalog default code) := by
  rw [Bid.offeredIn, bidCurrency]
  cases bid.currency <;> rfl

/-! ## All responses -/

/-- A response is settled: the partner, its code and its time are the same; the bids that have a
price are there at that price, in their order and otherwise unchanged; the errors are followed by
the warnings, and by one generic error for each of the other bids, in their order. -/
structure PartnerResponse.SettledInto (s : Settlement) (catalog : Catalog) (default : String)
    (warnings : List PartnerError) (r settled : PartnerResponse) : Prop where
  partner : settled.partner = r.partner
  code : settled.code = r.code
  responseTimeMs : settled.responseTimeMs = r.responseTimeMs
  bids : settled.bids = r.bids.filterMap fun bid =>
    let source := bid.offeredIn catalog default r.code
    (s.price? r.partner source bid).map fun price =>
      { bid with
        price
        currency := some s.currency
        offeredPrice := some bid.price
        offeredCurrency := some source }
  errors : ∃ reasons, settled.errors = r.errors ++ warnings ++ reasons ∧
    List.Forall₂
      (fun bid e => e.kind = .generic ∧
        s.Refuses r.partner (bid.offeredIn catalog default r.code) bid e)
      (r.bids.filter fun bid =>
        (s.price? r.partner (bid.offeredIn catalog default r.code) bid).isNone)
      reasons

/-- The settlement currency is the first one that the request lists, else that of the exchange; if
the request lists several, there is a warning. -/
theorem settlementCurrency_eq (request : BidRequest) (default : String) :
    settlementCurrency request default =
      let listed := request.cur.getD []
      let currency := listed.headD default
      (currency, if 1 < listed.length then some (.severalCurrencies currency) else none) := by
  rw [settlementCurrency]
  cases request.cur with
  | none => rfl
  | some listed =>
    match listed with
    | [] => rfl
    | [first] => rfl
    | first :: second :: rest => simp

theorem settledInto_settle (s : Settlement) (catalog : Catalog) (default : String)
    (warning : Option PartnerError) (r : PartnerResponse) :
    r.SettledInto s catalog default warning.toList (r.settle s catalog default warning) where
  partner := rfl
  code := rfl
  responseTimeMs := rfl
  bids := by
    simp only [PartnerResponse.settle, successes_map, Bid.toOption_settle, Bid.offeredIn_eq]
    rfl
  errors := by
    refine ⟨_, rfl, ?_⟩
    have hreasons := forall₂_failures
      (Bid.settle s r.partner (bidCurrency catalog default r.code)) r.bids
    simp only [Bid.toOption_settle, Option.isNone_map] at hreasons
    simp only [Bid.offeredIn_eq]
    refine hreasons.imp ?_
    intro bid e he
    have hrefuses := Bid.settle_eq_error_iff.1 he
    exact ⟨hrefuses.kind_eq, hrefuses⟩

/-- There is one response for each, in the same order, and every bid is accounted for: it goes on at
its price in the first currency that the request lists, or it leaves one generic error.  If the
request lists several currencies, a warning stands before these errors. -/
theorem normalize_accounts (rates : Rates) (default : String) (request : BidRequest)
    (catalog : Catalog) (responses : List PartnerResponse) :
    let listed := request.cur.getD []
    let currency := listed.headD default
    let warnings := if 1 < listed.length then [PartnerError.severalCurrencies currency] else []
    List.Forall₂ (PartnerResponse.SettledInto ⟨rates, request, currency⟩ catalog default warnings)
      responses (normalize rates default request catalog responses) := by
  intro listed currency warnings
  have hwarnings : (settlementCurrency request default).2.toList = warnings := by
    rw [settlementCurrency_eq]
    by_cases h : 1 < listed.length
    · simp [warnings, listed, currency, h]
    · simp [warnings, listed, h]
  have hcurrency : (settlementCurrency request default).1 = currency := by
    rw [settlementCurrency_eq]
  rw [normalize, List.forall₂_map_right_iff]
  refine List.forall₂_same.2 ?_
  intro r _
  rw [← hwarnings, ← hcurrency]
  exact settledInto_settle _ _ _ _ r

end AdExchange
