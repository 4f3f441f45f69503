import AdExchange.Price.Conversion

/-!
# What can go wrong with one partner

An error of one partner never ends an auction: it is listed with the partner, and the auction goes
on with the others.  Each error has a kind, by which programs tell errors apart, and a message.
-/

namespace AdExchange

/-- By what programs tell errors apart. -/
inductive PartnerErrorKind where
  | timeout
  | badInput
  | badServerResponse
  | failedToRequestBids
  | generic
  deriving DecidableEq, Repr, Inhabited

namespace PartnerErrorKind

def code : PartnerErrorKind → Nat
  | .timeout => 1
  | .badInput => 2
  | .badServerResponse => 3
  | .failedToRequestBids => 4
  | .generic => 999

def name : PartnerErrorKind → String
  | .timeout => "timeout"
  | .badInput => "bad_input"
  | .badServerResponse => "bad_server_response"
  | .failedToRequestBids => "failed_to_request_bids"
  | .generic => "generic"

def ofName? : String → Option PartnerErrorKind
  | "timeout" => some .timeout
  | "bad_input" => some .badInput
  | "bad_server_response" => some .badServerResponse
  | "failed_to_request_bids" => some .failedToRequestBids
  | "generic" => some .generic
  | _ => none

@[simp] theorem ofName?_name (k : PartnerErrorKind) : ofName? k.name = some k := by
  cases k <;> rfl

end PartnerErrorKind

/-- What went wrong with one partner. -/
inductive PartnerError where
  /-- Reported from outside: by the transport or by an adapter. -/
  | reported (kind : PartnerErrorKind) (message : String)
  /-- The partner did not answer before its deadline. -/
  | timedOut
  /-- The catalog has no partner of this name. -/
  | notConfigured (code : String)
  /-- No adapter has this name. -/
  | noAdapter (name : String)
  /-- The partner's adapter crashed; this is what the runtime says of it. -/
  | adapterCrashed (report : String)
  /-- The partner answered with a status that stands for no bids. -/
  | unexpectedStatus (status : Nat)
  /-- The body of the answer is no bid response, for this reason. -/
  | undecodable (detail : String)
  /-- A bid has an empty id. -/
  | missingBidId
  /-- A bid names no imp. -/
  | missingImpId (bidId : String)
  /-- A bid names an imp that was not offered to the partner. -/
  | unknownImp (bidId impId : String)
  /-- A bid has a negative price. -/
  | negativePrice (bidId : String)
  /-- The request lists several currencies; only the first one counts. -/
  | severalCurrencies (first : String)
  /-- A price cannot be brought to the settlement currency. -/
  | conversion (reason : ConversionError)
  /-- The adjusted price does not fit a decimal. -/
  | factorOverflow (factor : Decimal)
  deriving DecidableEq, Inhabited

namespace PartnerError

/-- The kind of an error.  A status of 400 is taken as a complaint about the request. -/
def kind : PartnerError → PartnerErrorKind
  | .reported kind _ => kind
  | .timedOut => .timeout
  | .unexpectedStatus status => if status = 400 then .badInput else .badServerResponse
  | .undecodable _ => .badServerResponse
  | .severalCurrencies _ => .badInput
  | _ => .generic

/-- The beginning of the message about a crash; what the runtime says comes behind it. -/
def crashLead : String := "Partner task failed: "

def message : PartnerError → String
  | .reported _ message => message
  | .timedOut => "Timed out"
  | .notConfigured code => "Partner " ++ code ++ " is not configured"
  | .noAdapter name => "No adapter registered under the name " ++ name
  | .adapterCrashed report => crashLead ++ report
  | .unexpectedStatus status =>
    "Unexpected status code: " ++ toString status ++ ". Run with request.test = 1 for more info"
  | .undecodable detail => "Failed to decode: " ++ detail
  | .missingBidId => "Bid missing required field 'id'"
  | .missingImpId bidId => "Bid \"" ++ bidId ++ "\" missing required field 'impid'"
  | .unknownImp bidId impId =>
    "Bid \"" ++ bidId ++ "\" has no corresponding imp \"" ++ impId ++ "\" in request"
  | .negativePrice bidId => "Bid \"" ++ bidId ++ "\" does not contain a positive 'price'"
  | .severalCurrencies first =>
    "Cur parameter contains more than one currency. " ++ first ++ " will be used"
  | .conversion reason => reason.message
  | .factorOverflow factor =>
    "Bid price overflowed after adjustment factor " ++ factor.toText

end PartnerError

end AdExchange
