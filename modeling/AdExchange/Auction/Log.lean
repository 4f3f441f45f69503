import AdExchange.AuctionError
import AdExchange.Partner.Response

/-!
# The log of an auction

Each auction leaves one record: what was asked, what each partner did, and how it ended.
-/

namespace AdExchange

/-- What a partner's part in an auction came to. -/
inductive PartnerStatus where
  | success
  | timeout
  | noFill
  | error
  deriving DecidableEq, Repr, Inhabited

def PartnerStatus.name : PartnerStatus → String
  | .success => "success"
  | .timeout => "timeout"
  | .noFill => "no_fill"
  | .error => "error"

/-- One partner's part in an auction. -/
structure PartnerLog where
  partner : String
  code : String
  bidCount : Nat
  errorCount : Nat
  responseTimeMs : Nat
  status : PartnerStatus
  deriving DecidableEq, Inhabited

namespace PartnerLog

/-- What a partner's part came to: bids, or else a timeout among its errors, or else nothing at
all, or else some error. -/
def statusOf (r : PartnerResponse) : PartnerStatus :=
  if !r.bids.isEmpty then .success
  else if r.errors.any fun e => e.kind == .timeout then .timeout
  else if r.errors.isEmpty then .noFill
  else .error

def of (r : PartnerResponse) : PartnerLog :=
  ⟨r.partner, r.code, r.bids.length, r.errors.length, r.responseTimeMs, statusOf r⟩

def toJson (l : PartnerLog) : Json :=
  .ofFields
    [("partner", some (.string l.partner)), ("code", some (.string l.code)),
     ("bid_count", some (.nat l.bidCount)), ("error_count", some (.nat l.errorCount)),
     ("response_time_ms", some (.nat l.responseTimeMs)), ("status", some (.string l.status.name))]

end PartnerLog

/-- How an auction ended. -/
inductive AuctionStatus where
  | success
  | noBid
  | failure
  deriving DecidableEq, Repr, Inhabited

def AuctionStatus.name : AuctionStatus → String
  | .success => "success"
  | .noBid => "no_bid"
  | .failure => "failure"

/-- The record of an auction.  Until the auction succeeds it counts as failed. -/
structure AuctionLog where
  /-- The time of day at which the auction started. -/
  timestamp : Option String := none
  requestId : String
  account : Option String := none
  /-- The time that the auction had, in milliseconds. -/
  tmaxMs : Option Nat := none
  status : AuctionStatus := .failure
  bidCount : Nat := 0
  rejectedCount : Nat := 0
  /-- Why the auction failed. -/
  error : Option String := none
  elapsedMs : Nat := 0
  /-- The partners that were asked. -/
  partnerLogs : List PartnerLog := []
  deriving DecidableEq, Inhabited

namespace AuctionLog

def addPartner (l : AuctionLog) (r : PartnerResponse) : AuctionLog :=
  { l with partnerLogs := l.partnerLogs ++ [PartnerLog.of r] }

/-- Ends the record of an auction that has a response. -/
def succeed (l : AuctionLog) (bidCount elapsedMs : Nat) : AuctionLog :=
  { l with status := if 0 < bidCount then .success else .noBid, bidCount, elapsedMs }

/-- Ends the record of an auction that failed. -/
def fail (l : AuctionLog) (message : String) (elapsedMs : Nat) : AuctionLog :=
  { l with status := .failure, error := some message, elapsedMs }

/-- How loudly the record is logged. -/
def level (l : AuctionLog) : String :=
  match l.status with
  | .failure => "ERROR"
  | _ => "INFO"

def toJson (l : AuctionLog) : Json :=
  .ofFields
    [("timestamp", l.timestamp.map .string), ("log_type", some (.string "auction")),
     ("request_id", some (.string l.requestId)),
     ("account_id", some (l.account.elim .null .string)),
     ("tmax_ms", some (l.tmaxMs.elim .null .nat)),
     ("partner_attempts", some (.nat l.partnerLogs.length)),
     ("status", some (.string l.status.name)), ("bid_count", some (.nat l.bidCount)),
     ("rejected_count", some (.nat l.rejectedCount)),
     ("error", some (l.error.elim .null .string)), ("elapsed_ms", some (.nat l.elapsedMs)),
     ("partner_log", some (.array (l.partnerLogs.map PartnerLog.toJson)))]

end AuctionLog

end AdExchange
