/-!
# HTTP requests

What arrives over HTTP, as far as an exchange and its partners look at it.
-/

namespace AdExchange

structure HttpRequest where
  method : String := "POST"
  /-- A path, which may come with a host before it and a query behind it. -/
  path : String
  /-- Names and values in their order. -/
  headers : List (String × String) := []
  body : List UInt8 := []

namespace HttpRequest

/-- A character that the name of a protocol may hold. -/
def isSchemeChar (c : Char) : Bool := c.isAlphanum || c == '+' || c == '-' || c == '.'

/-- Here a query or a fragment begins. -/
def isPathEnd (c : Char) : Bool := c == '?' || c == '#'

/-- What follows the host of an address that names a protocol and a host. -/
def afterHost? (address : List Char) : Option (List Char) :=
  let scheme := address.takeWhile isSchemeChar
  match address.drop scheme.length with
  | ':' :: '/' :: '/' :: rest =>
    let path := rest.dropWhile fun c => c != '/' && !isPathEnd c
    if scheme.isEmpty ∨ path.length = rest.length then none else some path
  | _ => none

/-- The path without a host before it and a query and fragment behind it; a host alone has the
path `/`. -/
def resource (r : HttpRequest) : String :=
  let path := ((afterHost? r.path.toList).getD r.path.toList).takeWhile (!isPathEnd ·)
  if path.isEmpty then "/" else String.ofList path

/-- A character that a header may hold to be taken as text. -/
def isHeaderText (c : Char) : Bool := (32 ≤ c.toNat && c.toNat < 127) || c == '\t'

/-- The value of the first header of a name, whose case does not matter; `none` if it is no
text. -/
def header? (r : HttpRequest) (name : String) : Option String := do
  let (_, value) ← r.headers.find? fun h => h.1.toList.map Char.toLower == name.toList
  if value.toList.all isHeaderText then some value else none

/-- How many octets a body may have. -/
def bodyLimit : Nat := 2 * 1024 * 1024

/-- The body is longer than a body may be. -/
def isOversized (r : HttpRequest) : Bool := bodyLimit < r.body.length

end HttpRequest

end AdExchange
