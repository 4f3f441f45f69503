import AdExchange.Partner.Response
import AdExchange.Scope.Basic

/-!
# Adapters and the transport

An adapter speaks a partner's protocol: it turns what the partner is asked into HTTP calls, and
the replies into bids.  Adapters are foreign code and may crash.  The transport carries the calls;
a reply takes its time, and may depend on the calls that were made before.
-/

namespace AdExchange

structure HttpCall where
  method : String
  uri : String
  headers : List (String × String)
  body : String
  /-- The imps that the call is about. -/
  impIds : List String
  deriving DecidableEq, Inhabited

structure HttpReply where
  status : Nat
  body : List UInt8
  deriving DecidableEq, Inhabited

/-- What an adapter makes of a request: calls, and errors that it finds right away. -/
structure CallPlan where
  calls : List HttpCall := []
  errors : List PartnerError := []
  deriving Inhabited

/-- A partner's protocol.  Either step gives `none` if the adapter crashes. -/
structure Adapter where
  /-- The calls for what a partner is asked. -/
  makeCalls : PartnerRequest → Partner → Option CallPlan
  /-- The bids in the reply to a call. -/
  readBids : PartnerRequest → HttpCall → HttpReply → Option (Except PartnerError (List Bid))

/-- The adapters by name. -/
abbrev Adapters := String → Option Adapter

/-- Carries a call, given the calls that were made before it. -/
structure Transport where
  answer : (earlier : List HttpCall) → HttpCall → Timed (Except PartnerError HttpReply)

namespace Transport

/-- A transport that reaches nobody: every call fails at once. -/
def offline : Transport where
  answer _ _ := ⟨0, .error (.reported .failedToRequestBids "no connection")⟩

/-- The reply to a call does not depend on the calls that were made before it. -/
def Memoryless (t : Transport) : Prop :=
  ∀ earlier earlier' call, t.answer earlier call = t.answer earlier' call

/-- Makes calls one after the other without waiting; gives each call with its reply. -/
def send (t : Transport) (earlier : List HttpCall) :
    List HttpCall → List (HttpCall × Timed (Except PartnerError HttpReply))
  | [] => []
  | call :: rest => (call, t.answer earlier call) :: send t (earlier ++ [call]) rest

end Transport

end AdExchange
