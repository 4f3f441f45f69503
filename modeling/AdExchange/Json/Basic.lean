import AdExchange.Dictionary
import AdExchange.Number.Binary64

/-!
# JSON values

A JSON value whose objects are dictionaries, and whose numbers are integers or binary64 numbers:
a number that was written with a point or an exponent stays a binary number, also if it is
integral.
-/

namespace AdExchange

/-- A JSON number. -/
inductive Json.Number where
  /-- An integer, from `-2 ^ 63` to `2 ^ 64 - 1`. -/
  | integer (n : Int)
  /-- Any other number, rounded to binary64. -/
  | binary (x : Binary64)
  deriving DecidableEq

/-- A JSON value. -/
inductive Json where
  | null
  | bool (b : Bool)
  | number (n : Json.Number)
  | string (s : String)
  | array (items : List Json)
  | object (fields : List (String × Json))

namespace Json

instance : Inhabited Json := ⟨null⟩

mutual

/-- All objects in the value are ordered dictionaries. -/
def Canonical : Json → Prop
  | .array items => CanonicalItems items
  | .object fields => Dictionary.Ordered fields ∧ CanonicalFields fields
  | _ => True

/-- All objects in these values are ordered dictionaries. -/
def CanonicalItems : List Json → Prop
  | [] => True
  | v :: rest => v.Canonical ∧ CanonicalItems rest

/-- All objects in the values of these fields are ordered dictionaries. -/
def CanonicalFields : List (String × Json) → Prop
  | [] => True
  | (_, v) :: rest => v.Canonical ∧ CanonicalFields rest

end

def int (n : Int) : Json := .number (.integer n)

def nat (n : Nat) : Json := int n

def isNull : Json → Bool
  | .null => true
  | _ => false

def asString? : Json → Option String
  | .string s => some s
  | _ => none

def asObject? : Json → Option (Dictionary Json)
  | .object fields => some fields
  | _ => none

def asArray? : Json → Option (List Json)
  | .array items => some items
  | _ => none

/-- The natural number that the value is; a number with a point is none. -/
def asNat? : Json → Option Nat
  | .number (.integer n) => if 0 ≤ n then some n.toNat else none
  | _ => none

def asBool? : Json → Option Bool
  | .bool b => some b
  | _ => none

/-- The member of an object under a key. -/
def get? (v : Json) (key : String) : Option Json := v.asObject?.bind (·.get? key)

/-- The member that a path of keys leads to. -/
def path? (v : Json) : List String → Option Json
  | [] => some v
  | key :: rest => (v.get? key).bind (·.path? rest)

/-- An object from those fields that are there. -/
def ofFields (fields : List (String × Option Json)) : Json :=
  .object (Dictionary.ofList (fields.filterMap fun (k, v) => v.map (k, ·)))

def strings (ss : List String) : Json := .array (ss.map .string)

end Json

end AdExchange
