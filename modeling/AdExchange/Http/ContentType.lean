/-!
# Content types

A content type names a type and a subtype, `application/json` for one, and may go on with
parameters, each behind a semicolon.  A subtype may end in a suffix behind a plus sign, as in
`application/ld+json`, which names the form that the subtype is written in.  Case does not matter.

Parameters are only checked.  Their form is regular, so one pass over their characters decides.
-/

namespace AdExchange

/-- A content type, in lower case. -/
structure ContentType where
  main : String
  /-- The subtype, up to its suffix. -/
  subtype : String
  /-- What stands behind the last plus sign. -/
  suffix : Option String := none
  deriving DecidableEq, Inhabited

namespace ContentType

def isTokenChar (c : Char) : Bool := c.isAlphanum || "!#$%&'*+-.^_`|~".toList.contains c

def isQuotedChar (c : Char) : Bool := 32 ≤ c.toNat && c.toNat < 127

/-- How far a list of parameters has been read. -/
inductive ParameterState where
  /-- Before a name, where blanks may stand. -/
  | start
  /-- Inside of a name. -/
  | name
  /-- Behind the equals sign. -/
  | afterEquals
  /-- Inside of a value without quotes. -/
  | value
  /-- Behind the opening quote; a quoted value has one character at least. -/
  | opened
  /-- Inside of a quoted value. -/
  | quoted
  /-- Behind the closing quote, where blanks may stand. -/
  | closed
  deriving DecidableEq, Inhabited

namespace ParameterState

def step? : ParameterState → Char → Option ParameterState
  | .start, c => if c = ' ' then some .start else if isTokenChar c then some .name else none
  | .name, c => if c = '=' then some .afterEquals else if isTokenChar c then some .name else none
  | .afterEquals, c =>
    if c = '"' then some .opened else if isTokenChar c then some .value else none
  | .value, c => if c = ';' then some .start else if isTokenChar c then some .value else none
  | .opened, c => if isQuotedChar c then some .quoted else none
  | .quoted, c => if c = '"' then some .closed else if isQuotedChar c then some .quoted else none
  | .closed, c => if c = ';' then some .start else if c = ' ' then some .closed else none

/-- The parameters may end here.  A value without quotes may be empty if it is the last one. -/
def mayEnd : ParameterState → Bool
  | .start | .afterEquals | .value | .closed => true
  | .name | .opened | .quoted => false

end ParameterState

/-- What stands behind the first semicolon is a list of parameters, which may be empty. -/
def areParameters (cs : List Char) : Bool :=
  match cs.foldlM ParameterState.step? .start with
  | some s => s.mayEnd
  | none => false

/-- Splits a subtype at its last plus sign; one in front of everything splits nothing. -/
def splitSuffix (cs : List Char) : List Char × Option (List Char) :=
  let suffix := (cs.reverse.takeWhile (· != '+')).reverse
  let subtype := cs.take (cs.length - suffix.length - 1)
  if subtype.isEmpty then (cs, none) else (subtype, some suffix)

def parse? (text : String) : Option ContentType :=
  let cs := text.toList.map Char.toLower
  let main := cs.takeWhile isTokenChar
  match cs.dropWhile isTokenChar with
  | '/' :: behind =>
    let sub := behind.takeWhile isTokenChar
    let (subtype, suffix) := splitSuffix sub
    let parsed : ContentType :=
      ⟨String.ofList main, String.ofList subtype, suffix.map String.ofList⟩
    if main.isEmpty then none
    else
      match behind.dropWhile isTokenChar with
      | [] => some parsed
      | ';' :: rest => if !sub.isEmpty && areParameters rest then some parsed else none
      | _ => none
  | _ => none

/-- The content is JSON, by its subtype or by its suffix. -/
def isJson (t : ContentType) : Bool :=
  t.main == "application" && (t.subtype == "json" || t.suffix == some "json")

end ContentType

end AdExchange
