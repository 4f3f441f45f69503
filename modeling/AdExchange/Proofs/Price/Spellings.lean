import AdExchange.Proofs.Decimal.Arithmetic
import AdExchange.Proofs.Price.RateSources

/-!
# Currency codes in upper and in lower case

Whether two codes stand for the same currency does not depend on the case of their letters.  A table
of rates is another matter: it is asked for a code as it is spelled.  So a price that stays in its
currency stays as it is under every spelling, but a price that is converted comes to the same under
two spellings only if both are quoted at the same rate, or neither is.
-/

namespace AdExchange

/-! ## Codes of one currency -/

section Codes

variable {a b a' b' : String}

theorem sameCurrency_iff :
    sameCurrency a b = true ↔ a.toList.map Char.toLower = b.toList.map Char.toLower := by
  rw [sameCurrency, beq_iff_eq]

theorem sameCurrency_refl (a : String) : sameCurrency a a = true := sameCurrency_iff.2 rfl

/-- Whether two codes stand for one currency does not depend on how they are spelled. -/
theorem sameCurrency_respelled (ha : sameCurrency a a' = true) (hb : sameCurrency b b' = true) :
    sameCurrency a b = sameCurrency a' b' := by
  rw [sameCurrency_iff] at ha hb
  rw [sameCurrency, sameCurrency, ha, hb]

end Codes

/-! ## Amounts and rates as numbers -/

/-- Two conversions come to the same number, or both fail. -/
def SameAmount (x y : Except ConversionError Decimal) : Prop :=
  x.toOption.map (·.value) = y.toOption.map (·.value)

namespace Decimal

variable {x : ℚ} {o o' : Option Decimal} {r r' : Option Decimal}

/-- Results that are rounded from one number are the same number. -/
theorem Rounded.map_value_eq (h : Rounded 28 x o) (h' : Rounded 28 x o') :
    o.map (·.value) = o'.map (·.value) := by
  by_cases hfits : Fits x 0
  · obtain ⟨d, rfl, hd⟩ := h.exists_of_fits hfits
    obtain ⟨e, rfl, he⟩ := h'.exists_of_fits hfits
    exact congrArg some (le_antisymm (hd.mono he le_rfl) (he.mono hd le_rfl))
  · rw [h.eq_none_iff.2 hfits, h'.eq_none_iff.2 hfits]

/-- One time a rate is the rate. -/
theorem map_value_one_mul? (rate : Decimal) :
    (one.mul? rate).map (·.value) = some rate.value := by
  have hone : one.value * rate.value = rate.value := by
    have : one.value = 1 := by simp [value, one, signed, ofNat]
    rw [this, one_mul]
  have h := rounded_mul? one rate
  rw [hone] at h
  exact h.map_value_eq (rounded_some_of_value_eq rfl)

/-- Two rates, each of which may be missing, make the same of every amount exactly if they are the
same number or both missing. -/
theorem sameAmount_iff_value_eq :
    (∀ amount : Decimal, (r.bind amount.mul?).map (·.value) = (r'.bind amount.mul?).map (·.value)) ↔
      r.map (·.value) = r'.map (·.value) := by
  constructor
  · -- The price that shows the rate is one.
    intro h
    have hone : ∀ o : Option Decimal, (o.bind one.mul?).map (·.value) = o.map (·.value) := by
      intro o
      cases o with
      | none => rfl
      | some rate => exact map_value_one_mul? rate
    rw [← hone r, ← hone r', h one]
  · intro h amount
    cases r with
    | none =>
      cases r' with
      | none => rfl
      | some rate' => cases h
    | some rate =>
      cases r' with
      | none => cases h
      | some rate' =>
        have hvalue : rate.value = rate'.value := Option.some.inj h
        have hrounded := rounded_mul? amount rate
        rw [hvalue] at hrounded
        exact hrounded.map_value_eq (rounded_mul? amount rate')

end Decimal

/-! ## The rate for two spellings -/

namespace Rates

/-- The table has the same rates for two codes in one spelling and in another. -/
def SpellsAlike (rates : Rates) (source target source' target' : String) : Prop :=
  rates.direct? source target = rates.direct? source' target' ∧
    rates.direct? target source = rates.direct? target' source'

variable {rates : Rates} {request : BidRequest} {amount : Decimal}
  {source target source' target' : String}

/-- A price is multiplied with the rate that applies. -/
theorem toOption_convert (hdiffer : sameCurrency source target = false) (amount : Decimal) :
    (rates.convert request amount source target).toOption =
      (rates.applied? request source target).bind amount.mul? := by
  rw [convert, applied?, hdiffer]
  cases rates.rateFor request source target with
  | error reason => rfl
  | ok rate =>
    change (atRate amount rate source target).toOption = amount.mul? rate
    rw [atRate]
    cases amount.mul? rate <;> rfl

/-- The spelling of two codes comes up in the errors of a look-up, but not in its result. -/
theorem SpellsAlike.toOption_lookup (h : rates.SpellsAlike source target source' target') :
    (rates.lookup source target).toOption = (rates.lookup source' target').toOption := by
  rw [lookup, lookup, h.1, h.2]
  cases rates.direct? source' target' with
  | some rate => rfl
  | none =>
    cases rates.direct? target' source' with
    | none => rfl
    | some rate =>
      dsimp only
      split
      · rfl
      · cases Decimal.one.div? rate <;> rfl

/-- The rate is that of the request, else that of the exchange if the request lets it be used. -/
theorem toOption_rateFor : (rates.rateFor request source target).toOption =
    ((ofRequest request).lookup source target).toOption.bind fun own =>
      own.or (if request.usesExchangeRates then (rates.lookup source target).toOption.join
        else none) := by
  rw [rateFor]
  change ((ofRequest request).lookup source target >>= _).toOption = _
  cases (ofRequest request).lookup source target with
  | error reason => rfl
  | ok own =>
    cases own with
    | some rate => rfl
    | none =>
      change Except.toOption (if request.usesExchangeRates = true then _ else _) =
        if request.usesExchangeRates = true then _ else _
      split
      · cases rates.lookup source target with
        | error reason => rfl
        | ok configured => cases configured <;> rfl
      · rfl

/-- The same rate applies where no table that counts tells the spellings apart. -/
theorem applied?_of_spellsAlike (hsame : sameCurrency source target = sameCurrency source' target')
    (hown : (ofRequest request).SpellsAlike source target source' target')
    (hexchange : request.usesExchangeRates = true →
      rates.SpellsAlike source target source' target') :
    rates.applied? request source target = rates.applied? request source' target' := by
  rw [applied?, applied?, hsame, toOption_rateFor, toOption_rateFor, hown.toOption_lookup]
  cases huses : request.usesExchangeRates with
  | false => rfl
  | true => rw [(hexchange huses).toOption_lookup]

/-- What is converted to another currency is quoted as it is spelled. -/
theorem quotes_of_convert {converted : Decimal} (hdiffer : sameCurrency source target = false)
    (h : rates.convert request amount source target = .ok converted) :
    (ofRequest request).Quotes source target ∨
      request.usesExchangeRates = true ∧ rates.Quotes source target := by
  rw [convert_eq hdiffer] at h
  cases hown : (ofRequest request).converted? amount source target with
  | some outcome => exact .inl ((converted?_isSome_iff amount).1 (by rw [hown]; rfl))
  | none =>
    rw [hown, Option.none_or] at h
    cases huses : request.usesExchangeRates with
    | false =>
      rw [huses] at h
      cases h
    | true =>
      refine .inr ⟨rfl, (converted?_isSome_iff amount).1 ?_⟩
      rw [huses, if_pos rfl] at h
      cases hexchange : rates.converted? amount source target with
      | none =>
        rw [hexchange] at h
        cases h
      | some outcome => rfl

/-- A price that stays in its currency stays as it is, however the two codes are spelled.  A price
that is converted comes to the same number under two spellings of the codes, whatever the price is,
exactly if the rates that apply under both are the same number, or none applies under either.  That
is so if no table that counts tells the spellings apart; but where something comes of a conversion,
a table that counts quotes the codes in just that spelling. -/
theorem convert_respelled (rates : Rates) (request : BidRequest)
    (hsource : sameCurrency source source' = true) (htarget : sameCurrency target target' = true) :
    (sameCurrency source target = true → ∀ amount,
      rates.convert request amount source target = .ok amount ∧
        rates.convert request amount source' target' = .ok amount) ∧
    (sameCurrency source target = false →
      ((∀ amount, SameAmount (rates.convert request amount source target)
          (rates.convert request amount source' target')) ↔
        (rates.applied? request source target).map (·.value) =
          (rates.applied? request source' target').map (·.value)) ∧
      ((ofRequest request).SpellsAlike source target source' target' →
        (request.usesExchangeRates = true → rates.SpellsAlike source target source' target') →
        ∀ amount, SameAmount (rates.convert request amount source target)
          (rates.convert request amount source' target')) ∧
      ∀ amount converted, rates.convert request amount source' target' = .ok converted →
        (ofRequest request).Quotes source' target' ∨
          request.usesExchangeRates = true ∧ rates.Quotes source' target') := by
  have hsame := sameCurrency_respelled hsource htarget
  refine ⟨?_, ?_⟩
  · intro hone amount
    rw [convert, convert, ← hsame, hone]
    exact ⟨rfl, rfl⟩
  · intro hdiffer
    have hdiffer' : sameCurrency source' target' = false := hsame ▸ hdiffer
    have hiff : (∀ amount, SameAmount (rates.convert request amount source target)
        (rates.convert request amount source' target')) ↔
        (rates.applied? request source target).map (·.value) =
          (rates.applied? request source' target').map (·.value) := by
      simp only [SameAmount, toOption_convert hdiffer, toOption_convert hdiffer']
      exact Decimal.sameAmount_iff_value_eq
    refine ⟨hiff, ?_, fun amount converted h => quotes_of_convert hdiffer' h⟩
    intro hown hexchange
    refine hiff.2 ?_
    rw [applied?_of_spellsAlike hsame hown hexchange]

def inDollars (rates : Rates) (code : String) (amount : Decimal) : Except ConversionError Decimal :=
  rates.convert { id := "r" } amount code "USD"

/-- Two dollars for a euro, whose code is in capitals. -/
def capitals : Rates := oneRate "EUR" "USD" (.ofNat 2)

/-- The same, and once more in small letters and with another number of places. -/
def bothSpellings : Rates := capitals ++ oneRate "eur" "USD" (.ofNat 20 1)

/-- A table that quotes the euro in capitals does not help a bid in `eur`, though that is the same
currency, and one that quotes both spellings does.  Within the currency no table is needed. -/
theorem convert_respelled_euros :
    sameCurrency "EUR" "eur" = true ∧
    inDollars capitals "EUR" (.ofNat 10) = .ok (.ofNat 20) ∧
    inDollars capitals "eur" (.ofNat 10) = .error (.noRate "eur" "USD") ∧
    ¬ (∀ amount, SameAmount (inDollars capitals "EUR" amount) (inDollars capitals "eur" amount)) ∧
    (∀ amount,
      SameAmount (inDollars bothSpellings "EUR" amount) (inDollars bothSpellings "eur" amount)) ∧
    ∀ amount, inDollars [] "usd" amount = .ok amount := by
  have heuro : sameCurrency "EUR" "eur" = true := by decide +kernel
  have hdiffer : sameCurrency "EUR" "USD" = false := by decide +kernel
  have hdollar : sameCurrency "USD" "usd" = true := by decide +kernel
  have hlaw : ∀ rates : Rates, (∀ amount,
      SameAmount (inDollars rates "EUR" amount) (inDollars rates "eur" amount)) ↔ _ := fun rates =>
    ((convert_respelled rates { id := "r" } heuro (sameCurrency_refl "USD")).2 hdiffer).1
  refine ⟨heuro, by rfl, by rfl, ?_, ?_, ?_⟩
  · rw [hlaw]
    intro h
    cases h
  · rw [hlaw]
    change some (Decimal.ofNat 2).value = some (Decimal.ofNat 20 1).value
    norm_num [Decimal.value, Decimal.signed, Decimal.ofNat]
  · intro amount
    obtain ⟨hsame, -⟩ := convert_respelled [] { id := "r" } hdollar (sameCurrency_refl "USD")
    exact (hsame (sameCurrency_refl "USD") amount).2

end Rates

end AdExchange
