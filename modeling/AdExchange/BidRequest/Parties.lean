import AdExchange.Json.Record

/-!
# Site, app and user of a bid request

The sections of a request that say where an advertisement is to be shown and to whom.  Members
that the exchange has no use for are kept in `other` and written back.
-/

namespace AdExchange

open RawJson

/-- What a page or application shows. -/
structure Content where
  id : Option String := none
  /-- First-party data on the content. -/
  data : Option (List Json) := none
  other : Dictionary Json := []
  deriving Inhabited

namespace Content

def read? (v : RawJson) : Option Content := do
  let (m, other) ← v.openRecord? ["id", "data"]
  return {
    id := ← m.optional? "id" string?
    data := ← m.optional? "data" (list? value?)
    other }

def toJson (c : Content) : Json :=
  .openRecord [("id", c.id.map .string), ("data", c.data.map .array)] c.other

end Content

/-- The extension of a site or an app, of which only the first-party data matters here. -/
structure DataExt where
  data : Option Json := none
  other : Dictionary Json := []
  deriving Inhabited

namespace DataExt

def isEmpty (e : DataExt) : Bool := e.data.isNone && e.other.isEmpty

def read? (v : RawJson) : Option DataExt := do
  let (m, other) ← v.openRecord? ["data"]
  return { data := ← m.optional? "data" value?, other }

def toJson (e : DataExt) : Json := .openRecord [("data", e.data)] e.other

end DataExt

/-- The page on which an advertisement is to be shown. -/
structure Site where
  id : Option String := none
  name : Option String := none
  domain : Option String := none
  page : Option String := none
  publisher : Option Json := none
  content : Option Content := none
  keywords : Option String := none
  ext : Option DataExt := none
  other : Dictionary Json := []
  deriving Inhabited

namespace Site

def read? (v : RawJson) : Option Site := do
  let (m, other) ← v.openRecord?
    ["id", "name", "domain", "page", "publisher", "content", "keywords", "ext"]
  return {
    id := ← m.optional? "id" string?
    name := ← m.optional? "name" string?
    domain := ← m.optional? "domain" string?
    page := ← m.optional? "page" string?
    publisher := ← m.optional? "publisher" value?
    content := ← m.optional? "content" Content.read?
    keywords := ← m.optional? "keywords" string?
    ext := ← m.optional? "ext" DataExt.read?
    other }

def toJson (s : Site) : Json :=
  .openRecord
    [("id", s.id.map .string), ("name", s.name.map .string), ("domain", s.domain.map .string),
     ("page", s.page.map .string), ("publisher", s.publisher),
     ("content", s.content.map Content.toJson), ("keywords", s.keywords.map .string),
     ("ext", s.ext.map DataExt.toJson)]
    s.other

end Site

/-- The application in which an advertisement is to be shown. -/
structure App where
  id : Option String := none
  name : Option String := none
  bundle : Option String := none
  publisher : Option Json := none
  content : Option Content := none
  keywords : Option String := none
  ext : Option DataExt := none
  other : Dictionary Json := []
  deriving Inhabited

namespace App

def read? (v : RawJson) : Option App := do
  let (m, other) ← v.openRecord?
    ["id", "name", "bundle", "publisher", "content", "keywords", "ext"]
  return {
    id := ← m.optional? "id" string?
    name := ← m.optional? "name" string?
    bundle := ← m.optional? "bundle" string?
    publisher := ← m.optional? "publisher" value?
    content := ← m.optional? "content" Content.read?
    keywords := ← m.optional? "keywords" string?
    ext := ← m.optional? "ext" DataExt.read?
    other }

def toJson (a : App) : Json :=
  .openRecord
    [("id", a.id.map .string), ("name", a.name.map .string), ("bundle", a.bundle.map .string),
     ("publisher", a.publisher), ("content", a.content.map Content.toJson),
     ("keywords", a.keywords.map .string), ("ext", a.ext.map DataExt.toJson)]
    a.other

end App

/-- An identifier that a third party gave to the visitor. -/
structure Eid where
  source : String
  uids : List Json := []
  other : Dictionary Json := []
  deriving Inhabited

namespace Eid

def read? (v : RawJson) : Option Eid := do
  let (m, other) ← v.openRecord? ["source", "uids"]
  return {
    source := ← m.required? "source" string?
    uids := ← m.withDefault? "uids" [] (list? value?)
    other }

def toJson (e : Eid) : Json :=
  .openRecord [("source", some (.string e.source)), ("uids", Json.nonempty? e.uids)] e.other

end Eid

/-- The extension of a user. -/
structure UserExt where
  /-- First-party data on the visitor. -/
  data : Option Json := none
  eids : Option (List Eid) := none
  other : Dictionary Json := []
  deriving Inhabited

namespace UserExt

def isEmpty (e : UserExt) : Bool := e.data.isNone && e.eids.isNone && e.other.isEmpty

def read? (v : RawJson) : Option UserExt := do
  let (m, other) ← v.openRecord? ["data", "eids"]
  return {
    data := ← m.optional? "data" value?
    eids := ← m.optional? "eids" (list? Eid.read?)
    other }

def toJson (e : UserExt) : Json :=
  .openRecord [("data", e.data), ("eids", e.eids.map fun es => .array (es.map Eid.toJson))] e.other

end UserExt

/-- The visitor. -/
structure User where
  id : Option String := none
  buyerUid : Option String := none
  yearOfBirth : Option Int32 := none
  gender : Option String := none
  keywords : Option String := none
  geo : Option Json := none
  /-- First-party data on the visitor. -/
  data : Option (List Json) := none
  ext : Option UserExt := none
  other : Dictionary Json := []
  deriving Inhabited

namespace User

def read? (v : RawJson) : Option User := do
  let (m, other) ← v.openRecord?
    ["id", "buyeruid", "yob", "gender", "keywords", "geo", "data", "ext"]
  return {
    id := ← m.optional? "id" string?
    buyerUid := ← m.optional? "buyeruid" string?
    yearOfBirth := ← m.optional? "yob" int32?
    gender := ← m.optional? "gender" string?
    keywords := ← m.optional? "keywords" string?
    geo := ← m.optional? "geo" value?
    data := ← m.optional? "data" (list? value?)
    ext := ← m.optional? "ext" UserExt.read?
    other }

def toJson (u : User) : Json :=
  .openRecord
    [("id", u.id.map .string), ("buyeruid", u.buyerUid.map .string),
     ("yob", u.yearOfBirth.map fun y => .int y.toInt), ("gender", u.gender.map .string),
     ("keywords", u.keywords.map .string), ("geo", u.geo), ("data", u.data.map .array),
     ("ext", u.ext.map UserExt.toJson)]
    u.other

end User

end AdExchange
