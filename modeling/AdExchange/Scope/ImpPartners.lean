import AdExchange.BidRequest.Basic

/-!
# The partners of an imp

An imp names the partners to ask in its extension, each with its own parameters: in an object
under `prebid.bidder`, or, in an older form, as members of the extension itself, side by side with
members that have a meaning of their own.  A partner is sent the imps that name it, with its own
parameters alone.
-/

namespace AdExchange

/-- Members of an imp's extension that never name a partner. -/
def reservedImpKeys : List String :=
  ["prebid", "context", "data", "skadn", "gpid", "tid", "all", "general", "ae",
   "is_rewarded_inventory"]

structure ImpPartners where
  /-- The parameters by partner. -/
  configs : Dictionary Json := []
  /-- The partners are members of the extension itself. -/
  legacy : Bool := false

namespace Imp

/-- The partners under `prebid.bidder` of an extension, if that is an object. -/
def nestedPartners? (ext : Dictionary Json) : Option (Dictionary Json) :=
  ((Dictionary.get? ext "prebid").bind (·.get? "bidder")).bind (·.asObject?)

/-- The partners of an imp with their parameters. -/
def partners (imp : Imp) : ImpPartners :=
  match imp.ext with
  | none => {}
  | some ext =>
    match nestedPartners? ext with
    | some configs => ⟨configs, false⟩
    | none => ⟨ext.filter fun e => !reservedImpKeys.contains e.1, true⟩

/-- The parameters of one partner, if the imp names it. -/
def fragment? (imp : Imp) (partner : String) : Option Json :=
  Dictionary.get? imp.partners.configs partner

/-- An extension without the partners under `prebid.bidder`, and without a `prebid` that is then
empty. -/
def dropNested (ext : Dictionary Json) : Dictionary Json :=
  match Dictionary.get? ext "prebid" with
  | some (.object prebid) =>
    let left := Dictionary.erase prebid "bidder"
    if left.isEmpty then Dictionary.erase ext "prebid"
    else Dictionary.modify ext "prebid" fun _ => .object left
  | _ => ext

/-- An extension without the first-party data of its context. -/
def dropContextData (ext : Dictionary Json) : Dictionary Json :=
  match Dictionary.get? ext "context" with
  | some (.object context) =>
    Dictionary.modify ext "context" fun _ => .object (Dictionary.erase context "data")
  | _ => ext

/-- The imp as a partner with these parameters is to see it.  The parameters come under `bidder`;
those of other partners are gone, and so is first-party data that the partner may not see. -/
def scopedTo (imp : Imp) (fragment : Json) (mayUseData : Bool) : Imp :=
  let ext := dropNested (imp.ext.getD [])
  let ext :=
    if imp.partners.legacy then ext.filter fun e => reservedImpKeys.contains e.1 else ext
  let ext := if mayUseData then ext else dropContextData ext
  { imp with ext := some (Dictionary.insert ext "bidder" fragment) }

end Imp

namespace BidRequest

/-- The names of all partners of a request, in the order in which its imps bring them up. -/
def partnerNames (request : BidRequest) : List String :=
  (request.imps.flatMap fun imp => Dictionary.keys imp.partners.configs).eraseDups

/-- The imps that name a partner, as it is to see them. -/
def impsFor (request : BidRequest) (partner : String) (mayUseData : Bool) : List Imp :=
  request.imps.filterMap fun imp =>
    (imp.fragment? partner).map fun fragment => imp.scopedTo fragment mayUseData

end BidRequest

end AdExchange
