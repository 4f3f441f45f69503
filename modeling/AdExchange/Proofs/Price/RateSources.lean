import AdExchange.Proofs.Price.Signs

/-!
# Which source of rates counts

There are two sources of rates, those of the request and, if the request lets them be used, those
of the exchange.  The first one that quotes the two currencies of a conversion decides what comes of
it, also if it can only be an error, and what the other one says does not matter.  In one table the
rate from one currency to the other decides, and the opposite one is only looked at without it.
-/

namespace AdExchange

/-- The request lets the rates of the exchange be used. -/
def BidRequest.usesExchangeRates (r : BidRequest) : Bool :=
  ((r.prebid?.bind (·.currency)).bind (·.useExchangeRates)).getD true

namespace Rates

/-- The table has a rate for two currencies, in one direction or the other. -/
def Quotes (rates : Rates) (source target : String) : Prop :=
  (rates.direct? source target).isSome ∨ (rates.direct? target source).isSome

/-- A price at a rate. -/
def atRate (amount rate : Decimal) (source target : String) : Except ConversionError Decimal :=
  match amount.mul? rate with
  | some converted => .ok converted
  | none => .error (.overflow source target)

/-- A price at the inverse of a rate. -/
def atInverse (amount rate : Decimal) (source target : String) : Except ConversionError Decimal :=
  if rate.isZero then .error (.zeroRate target source)
  else
    match Decimal.one.div? rate with
    | some inverse => atRate amount inverse source target
    | none => .error (.overflow source target)

/-- What comes of a price by one table; nothing if the table does not quote the two currencies. -/
def converted? (rates : Rates) (amount : Decimal) (source target : String) :
    Option (Except ConversionError Decimal) :=
  match rates.direct? source target with
  | some rate => some (atRate amount rate source target)
  | none => (rates.direct? target source).map fun rate => atInverse amount rate source target

variable {rates rates' : Rates} {request other : BidRequest} {amount rate : Decimal}
  {source target : String}

theorem converted?_of_direct (h : rates.direct? source target = some rate) :
    rates.converted? amount source target = some (atRate amount rate source target) := by
  rw [converted?, h]

theorem converted?_isSome_iff (amount : Decimal) :
    (rates.converted? amount source target).isSome ↔ rates.Quotes source target := by
  rw [converted?, Quotes]
  cases rates.direct? source target <;> simp

/-- What a look-up comes to, once the rate is applied. -/
theorem lookup_bind_eq {next : Except ConversionError Decimal} :
    (rates.lookup source target >>= fun
      | some rate => atRate amount rate source target
      | none => next) = (rates.converted? amount source target).getD next := by
  rw [lookup, converted?]
  cases rates.direct? source target with
  | some rate => rfl
  | none =>
    cases rates.direct? target source with
    | none => rfl
    | some rate =>
      simp only [Option.map_some, Option.getD_some, atInverse]
      split
      · rfl
      · cases Decimal.one.div? rate <;> rfl

/-- A conversion is a look-up in one table after the other. -/
theorem convert_eq_lookups (hdiffer : sameCurrency source target = false) :
    rates.convert request amount source target =
      (ofRequest request).lookup source target >>= fun
        | some rate => atRate amount rate source target
        | none =>
          if request.usesExchangeRates then
            rates.lookup source target >>= fun
              | some rate => atRate amount rate source target
              | none => .error (.noRate source target)
          else .error (.noRate source target) := by
  simp only [convert, hdiffer, Bool.false_eq_true, if_false, rateFor]
  change ((ofRequest request).lookup source target >>= _) >>= _ = _
  cases (ofRequest request).lookup source target with
  | error e => rfl
  | ok own =>
    cases own with
    | some rate => rfl
    | none =>
      change (if request.usesExchangeRates = true then _ else _) >>= _ = _
      simp only [ok_bind]
      cases request.usesExchangeRates with
      | false => rfl
      | true =>
        rw [if_pos rfl, if_pos rfl]
        cases rates.lookup source target with
        | error e => rfl
        | ok configured => cases configured <;> rfl

/-- What comes of a price is what comes of it by the first source that quotes the currencies. -/
theorem convert_eq (hdiffer : sameCurrency source target = false) :
    rates.convert request amount source target =
      (((ofRequest request).converted? amount source target).or
        (if request.usesExchangeRates then rates.converted? amount source target else none)).getD
          (.error (.noRate source target)) := by
  rw [convert_eq_lookups hdiffer]
  simp only [lookup_bind_eq]
  cases (ofRequest request).converted? amount source target with
  | some outcome => rfl
  | none => cases request.usesExchangeRates <;> rfl

/-- Two conversions come to the same if their sources do. -/
theorem convert_congr
    (h : ((ofRequest request).converted? amount source target).or
        (if request.usesExchangeRates then rates.converted? amount source target else none) =
      ((ofRequest other).converted? amount source target).or
        (if other.usesExchangeRates then rates'.converted? amount source target else none)) :
    rates.convert request amount source target = rates'.convert other amount source target := by
  cases hsame : sameCurrency source target with
  | true => rw [convert, convert, hsame]; rfl
  | false => rw [convert_eq hsame, convert_eq hsame, h]

/-- The rates of the exchange do not matter to a request that quotes the two currencies, in either
direction, nor to one that does not let them be used.  To a request that lets them be used and does
not quote the currencies nothing else matters: it is as good as one without rates.  And where a
table has the rate from one currency to the other, be it that of the request or that of the
exchange, that is the only rate of the table that matters. -/
theorem convert_source_counts (request : BidRequest) (amount : Decimal) (source target : String) :
    ((ofRequest request).Quotes source target → ∀ rates rates' : Rates,
      rates.convert request amount source target =
        rates'.convert request amount source target) ∧
    (request.usesExchangeRates = false → ∀ rates rates' : Rates,
      rates.convert request amount source target =
        rates'.convert request amount source target) ∧
    (¬ (ofRequest request).Quotes source target → request.usesExchangeRates = true →
      ∀ (rates : Rates) (other : BidRequest), ofRequest other = [] →
        other.usesExchangeRates = true →
        rates.convert request amount source target =
          rates.convert other amount source target) ∧
    (∀ rate, (ofRequest request).direct? source target = some rate →
      ∀ other, (ofRequest other).direct? source target = some rate → ∀ rates rates' : Rates,
        rates.convert request amount source target =
          rates'.convert other amount source target) ∧
    ∀ (rates rates' : Rates) (rate : Decimal), rates.direct? source target = some rate →
      rates'.direct? source target = some rate →
      rates.convert request amount source target =
        rates'.convert request amount source target := by
  refine ⟨?_, ?_, ?_, ?_, ?_⟩
  · intro hquotes rates rates'
    obtain ⟨outcome, houtcome⟩ :=
      Option.isSome_iff_exists.1 ((converted?_isSome_iff amount).2 hquotes)
    exact convert_congr (by rw [houtcome, Option.some_or, Option.some_or])
  · intro hforbidden rates rates'
    exact convert_congr (by simp only [hforbidden, Bool.false_eq_true, if_false])
  · intro hquotes huses rates other hnone huses'
    have hown : (ofRequest request).converted? amount source target = none := by
      rwa [← Option.not_isSome_iff_eq_none, converted?_isSome_iff]
    exact convert_congr (by rw [hown, hnone, huses, huses']; rfl)
  · intro rate hown other hother rates rates'
    refine convert_congr ?_
    rw [converted?_of_direct hown, converted?_of_direct hother, Option.some_or, Option.some_or]
  · intro rates rates' rate hrate hrate'
    exact convert_congr (by rw [converted?_of_direct hrate, converted?_of_direct hrate'])

/-- A request with rates of its own, which may let those of the exchange be used. -/
def requestWithRates (own : Rates) (usesExchangeRates : Bool) : BidRequest where
  id := "r"
  ext := some { prebid := some {
    currency := some { rates := some own, useExchangeRates := some usesExchangeRates } } }

def oneRate (source target : String) (rate : Decimal) : Rates := [(source, [(target, rate)])]

def tenEuros (rates : Rates) (request : BidRequest) : Except ConversionError Decimal :=
  rates.convert request (.ofNat 10) "EUR" "USD"

/-- A request that quotes the opposite rate as zero is not helped by the exchange, nor is one that
forbids it; one that quotes other currencies is.  Beside a rate of two the opposite one is not
looked at, even if it is zero. -/
theorem convert_source_counts_tenEuros :
    (∀ rates, tenEuros rates (requestWithRates (oneRate "USD" "EUR" .zero) true) =
      .error (.zeroRate "USD" "EUR")) ∧
    (∀ rates, tenEuros rates (requestWithRates [] false) = .error (.noRate "EUR" "USD")) ∧
    tenEuros (oneRate "EUR" "USD" (.ofNat 2)) (requestWithRates (oneRate "USD" "GBP" .one) true) =
      tenEuros (oneRate "EUR" "USD" (.ofNat 2)) { id := "s" } ∧
    (∀ rates, tenEuros rates (requestWithRates
      (oneRate "EUR" "USD" (.ofNat 2) ++ oneRate "USD" "EUR" .zero) true) = .ok (.ofNat 20)) ∧
    tenEuros (oneRate "EUR" "USD" (.ofNat 2) ++ oneRate "USD" "EUR" .zero) { id := "s" } =
      .ok (.ofNat 20) := by
  have counts := fun request => convert_source_counts request (.ofNat 10) "EUR" "USD"
  refine ⟨?_, ?_, ?_, ?_, ?_⟩
  · intro rates
    obtain ⟨hquoted, -⟩ := counts (requestWithRates (oneRate "USD" "EUR" .zero) true)
    exact hquoted (.inr rfl) rates []
  · intro rates
    obtain ⟨-, hforbidden, -⟩ := counts (requestWithRates [] false)
    exact hforbidden rfl rates []
  · obtain ⟨-, -, hother, -⟩ := counts (requestWithRates (oneRate "USD" "GBP" .one) true)
    exact hother (by rintro (h | h) <;> cases h) rfl _ { id := "s" } rfl rfl
  · intro rates
    obtain ⟨-, -, -, hdirect, -⟩ := counts (requestWithRates
      (oneRate "EUR" "USD" (.ofNat 2) ++ oneRate "USD" "EUR" .zero) true)
    exact hdirect (.ofNat 2) rfl (requestWithRates (oneRate "EUR" "USD" (.ofNat 2)) true) rfl
      rates []
  · obtain ⟨-, -, -, -, hdirect⟩ := counts { id := "s" }
    exact hdirect (oneRate "EUR" "USD" (.ofNat 2) ++ oneRate "USD" "EUR" .zero)
      (oneRate "EUR" "USD" (.ofNat 2)) (.ofNat 2) rfl rfl

end Rates

end AdExchange
