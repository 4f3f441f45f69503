import AdExchange.Json.Record

/-!
# Partners and their catalog

A partner is a bidder that the exchange can ask.  A request may name a partner by its own name or
by another name that the request itself declares.
-/

namespace AdExchange

open RawJson FieldRule

/-- A bidder that the exchange can ask. -/
structure Partner where
  id : UInt64
  name : String
  /-- The address that requests are sent to. -/
  endpoint : String
  enabled : Bool := true
  /-- How many milliseconds the partner is given, if less than the auction has. -/
  timeoutMs : Option UInt64 := none
  /-- The currency of bids that do not say theirs. -/
  defaultCurrency : String := "USD"
  /-- The protocol that the partner speaks. -/
  adapter : String := "openrtb"
  deriving DecidableEq, Inhabited

namespace Partner

def read? (v : RawJson) : Option Partner := do
  let m ← v.closedRecord?
    [given "id", given "name", given "endpoint", omitted "enabled", omitted "timeout_ms",
     omitted "default_currency", omitted "adapter"]
  return {
    id := ← m.required? "id" uint64?
    name := ← m.required? "name" string?
    endpoint := ← m.required? "endpoint" string?
    enabled := ← m.withDefault? "enabled" true bool?
    timeoutMs := ← m.optional? "timeout_ms" uint64?
    defaultCurrency := ← m.withDefault? "default_currency" "USD" string?
    adapter := ← m.withDefault? "adapter" "openrtb" string? }

def toJson (p : Partner) : Json :=
  .ofFields
    [("id", some (.nat p.id.toNat)), ("name", some (.string p.name)),
     ("endpoint", some (.string p.endpoint)), ("enabled", some (.bool p.enabled)),
     ("timeout_ms", some (p.timeoutMs.elim .null fun n => .nat n.toNat)),
     ("default_currency", some (.string p.defaultCurrency)), ("adapter", some (.string p.adapter))]

end Partner

/-- The partners in ascending order of their names, each name once. -/
structure Catalog where
  partners : List Partner := []
  deriving DecidableEq, Inhabited

namespace Catalog

/-- Puts a partner into its place, instead of the one with the same name. -/
def addTo (p : Partner) : List Partner → List Partner
  | [] => [p]
  | q :: rest =>
    if p.name < q.name then p :: q :: rest
    else if p.name = q.name then p :: rest
    else q :: addTo p rest

/-- The catalog with a partner added; it takes the place of one with the same name. -/
def add (c : Catalog) (p : Partner) : Catalog := ⟨addTo p c.partners⟩

/-- The catalog of a list of partners; of several with one name the last one counts. -/
def ofList (partners : List Partner) : Catalog := partners.foldl add {}

def get? (c : Catalog) (name : String) : Option Partner := c.partners.find? (·.name == name)

/-- The partner of a name, or of the name that it is another name for. -/
def resolve? (c : Catalog) (aliases : Dictionary String) (name : String) : Option Partner :=
  (c.get? name).or ((aliases.get? name).bind c.get?)

def names (c : Catalog) : List String := c.partners.map (·.name)

/-- The names of the partners that take part in auctions. -/
def activeNames (c : Catalog) : List String := (c.partners.filter (·.enabled)).map (·.name)

def read? (v : RawJson) : Option Catalog := (v.list? Partner.read?).map ofList

def toJson (c : Catalog) : Json :=
  .ofFields [("partners", some (.object (c.partners.map fun p => (p.name, p.toJson))))]

end Catalog

end AdExchange
