import AdExchange.BidRequest.Basic

/-!
# Currency conversion

A price is converted at a rate that the request brings along, or else at a rate of the exchange,
unless the request forbids that.  A table of rates is asked for the rate from one currency to the
other, and if it has none, for the rate the other way round, which is then inverted.
-/

namespace AdExchange

/-- Why a price cannot be converted. -/
inductive ConversionError where
  /-- No rate is known for the two currencies. -/
  | noRate (source target : String)
  /-- The only known rate is a zero, which cannot be inverted. -/
  | zeroRate (source target : String)
  /-- The rate or the converted price does not fit a decimal. -/
  | overflow (source target : String)
  deriving DecidableEq, Inhabited

def ConversionError.message : ConversionError → String
  | .noRate source target =>
    "Unable to convert bid currency " ++ source ++ " to desired ad server currency " ++ target
  | .zeroRate source target => "Currency rate from " ++ source ++ " to " ++ target ++ " is zero"
  | .overflow source target => "Price overflowed while converting " ++ source ++ " to " ++ target

/-- The codes differ at most in the case of ASCII letters. -/
def sameCurrency (a b : String) : Bool := a.toList.map Char.toLower == b.toList.map Char.toLower

namespace Rates

/-- The rate from one currency to another, if the table has one for this pair. -/
def direct? (rates : Rates) (source target : String) : Option Decimal :=
  (Dictionary.get? rates source).bind (Dictionary.get? · target)

/-- The rate of a table for two currencies: the direct one, else the inverse of the opposite
one. -/
def lookup (rates : Rates) (source target : String) : Except ConversionError (Option Decimal) :=
  match rates.direct? source target with
  | some rate => .ok (some rate)
  | none =>
    match rates.direct? target source with
    | none => .ok none
    | some rate =>
      if rate.isZero then .error (.zeroRate target source)
      else
        match Decimal.one.div? rate with
        | some inverse => .ok (some inverse)
        | none => .error (.overflow source target)

/-- The rate for two currencies: that of the request, else that of the exchange if the request
allows it. -/
def rateFor (rates : Rates) (request : BidRequest) (source target : String) :
    Except ConversionError Decimal := do
  let currency := request.prebid?.bind (·.currency)
  let own ← ((currency.bind (·.rates)).getD []).lookup source target
  match own with
  | some rate => .ok rate
  | none =>
    if (currency.bind (·.useExchangeRates)).getD true then
      match ← rates.lookup source target with
      | some rate => .ok rate
      | none => .error (.noRate source target)
    else .error (.noRate source target)

/-- A price in another currency.  `rates` are the rates of the exchange. -/
def convert (rates : Rates) (request : BidRequest) (amount : Decimal) (source target : String) :
    Except ConversionError Decimal :=
  if sameCurrency source target then .ok amount
  else do
    let rate ← rates.rateFor request source target
    match amount.mul? rate with
    | some converted => .ok converted
    | none => .error (.overflow source target)

end Rates

end AdExchange
