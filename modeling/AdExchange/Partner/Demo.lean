import AdExchange.Partner.Catalog

/-!
# A catalog for demonstrations

To show an exchange at work, a catalog of made-up partners is drawn at random; all of them have the
same address.  What is drawn comes as an argument.
-/

namespace AdExchange

/-- What is drawn for one made-up partner. -/
structure PartnerDraw where
  /-- The letters that its name starts with. -/
  letters : String
  enabled : Bool
  /-- How much its time exceeds the least one; without a limit if `none`. -/
  extraTime : Option (Fin 900) := none
  currency : String := "USD"
  deriving Inhabited

namespace PartnerDraw

def currencies : List String := ["USD", "EUR", "GBP"]

def partner (endpoint : String) (d : PartnerDraw) (id : Nat) : Partner where
  id := .ofNat id
  name := d.letters ++ "_partner"
  endpoint
  enabled := d.enabled
  timeoutMs := d.extraTime.map fun n => .ofNat (100 + n)
  defaultCurrency := d.currency

/-- The first partner takes part if no other does. -/
def withActive : List PartnerDraw → List PartnerDraw
  | [] => []
  | d :: rest =>
    if (d :: rest).any (·.enabled) then d :: rest else { d with enabled := true } :: rest

end PartnerDraw

/-- The catalog of some made-up partners, numbered from one. -/
def demoCatalog (endpoint : String) (draws : List PartnerDraw) : Catalog :=
  .ofList ((PartnerDraw.withActive draws).zipIdx 1 |>.map fun d => d.1.partner endpoint d.2)

end AdExchange
