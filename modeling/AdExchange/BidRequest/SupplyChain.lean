import AdExchange.Json.Record

/-!
# The source of a bid request

Who sells the advertising space: the supply chain lists every party that takes part in the sale,
from the publisher on.
-/

namespace AdExchange

open RawJson FieldRule

/-- A party that takes part in the sale. -/
structure SupplyChainNode where
  asi : String
  sid : String
  hp : Option Int32 := none
  rid : Option String := none
  name : Option String := none
  domain : Option String := none
  ext : Option Json := none
  deriving Inhabited

namespace SupplyChainNode

def read? (v : RawJson) : Option SupplyChainNode := do
  let m ← v.closedRecord?
    [given "asi", given "sid", given "hp", given "rid", given "name", given "domain", given "ext"]
  return {
    asi := ← m.required? "asi" string?
    sid := ← m.required? "sid" string?
    hp := ← m.optional? "hp" int32?
    rid := ← m.optional? "rid" string?
    name := ← m.optional? "name" string?
    domain := ← m.optional? "domain" string?
    ext := ← m.optional? "ext" value? }

def toJson (n : SupplyChainNode) : Json :=
  .ofFields
    [("asi", some (.string n.asi)), ("sid", some (.string n.sid)),
     ("hp", n.hp.map fun x => .int x.toInt), ("rid", n.rid.map .string),
     ("name", n.name.map .string), ("domain", n.domain.map .string), ("ext", n.ext)]

end SupplyChainNode

/-- The parties that take part in the sale, the publisher's first. -/
structure SupplyChain where
  ver : String
  complete : Int32
  nodes : List SupplyChainNode := []
  ext : Option Json := none
  deriving Inhabited

namespace SupplyChain

def read? (v : RawJson) : Option SupplyChain := do
  let m ← v.closedRecord? [given "ver", given "complete", omitted "nodes", given "ext"]
  return {
    ver := ← m.required? "ver" string?
    complete := ← m.required? "complete" int32?
    nodes := ← m.withDefault? "nodes" [] (list? SupplyChainNode.read?)
    ext := ← m.optional? "ext" value? }

def toJson (c : SupplyChain) : Json :=
  .ofFields
    [("ver", some (.string c.ver)), ("complete", some (.int c.complete.toInt)),
     ("nodes", some (.array (c.nodes.map SupplyChainNode.toJson))), ("ext", c.ext)]

end SupplyChain

/-- The extension of a request's source. -/
structure SourceExt where
  schain : Option SupplyChain := none
  other : Dictionary Json := []
  deriving Inhabited

namespace SourceExt

def read? (v : RawJson) : Option SourceExt := do
  let (m, other) ← v.openRecord? ["schain"]
  return { schain := ← m.optional? "schain" SupplyChain.read?, other }

def toJson (e : SourceExt) : Json :=
  .openRecord [("schain", e.schain.map SupplyChain.toJson)] e.other

end SourceExt

/-- Where a request comes from. -/
structure Source where
  fd : Option Int32 := none
  tid : Option String := none
  pchain : Option String := none
  ext : Option SourceExt := none
  deriving Inhabited

namespace Source

def read? (v : RawJson) : Option Source := do
  let m ← v.closedRecord? [given "fd", given "tid", given "pchain", given "ext"]
  return {
    fd := ← m.optional? "fd" int32?
    tid := ← m.optional? "tid" string?
    pchain := ← m.optional? "pchain" string?
    ext := ← m.optional? "ext" SourceExt.read? }

def toJson (s : Source) : Json :=
  .ofFields
    [("fd", s.fd.map fun x => .int x.toInt), ("tid", s.tid.map .string),
     ("pchain", s.pchain.map .string), ("ext", s.ext.map SourceExt.toJson)]

end Source

end AdExchange
