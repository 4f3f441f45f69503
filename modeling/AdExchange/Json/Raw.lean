import AdExchange.Json.Basic
import AdExchange.Decimal.Text

/-!
# JSON as it is written

A text can hold more than a value: the keys of an object may repeat, and some parts are well
formed and yet stand for nothing (a number past the largest binary64 number, half of a surrogate
pair, octets that are no UTF-8, nesting past the limit).  Such parts do no harm where nobody reads
them.  A `RawJson` keeps all this apart, and reading a type from it decides what matters.
-/

namespace AdExchange

open scoped CorePower

/-- A JSON text, parsed but not yet read as anything. -/
inductive RawJson where
  | null
  | bool (b : Bool)
  | number (n : Json.Number)
  | string (s : String)
  | array (items : List RawJson)
  /-- The members in the order of the text, repeated keys included. -/
  | object (members : List (String × RawJson))
  /-- Well formed, but standing for no value. -/
  | unreadable

mutual

/-- A value, to be read as some other type. -/
def Json.raw : Json → RawJson
  | .null => .null
  | .bool b => .bool b
  | .number n => .number n
  | .string s => .string s
  | .array items => .array (Json.rawItems items)
  | .object fields => .object (Json.rawFields fields)

def Json.rawItems : List Json → List RawJson
  | [] => []
  | v :: rest => v.raw :: Json.rawItems rest

def Json.rawFields : List (String × Json) → List (String × RawJson)
  | [] => []
  | (k, v) :: rest => (k, v.raw) :: Json.rawFields rest

end

namespace RawJson

instance : Inhabited RawJson := ⟨null⟩

mutual

/-- The value that a text stands for; the last of repeated keys counts. -/
def value? : RawJson → Option Json
  | .null => some .null
  | .bool b => some (.bool b)
  | .number n => some (.number n)
  | .string s => some (.string s)
  | .array items => (values? items).map .array
  | .object members => (memberValues? members).map fun fs => .object (Dictionary.ofList fs)
  | .unreadable => none

def values? : List RawJson → Option (List Json)
  | [] => some []
  | v :: rest => do
    let value ← v.value?
    let values ← values? rest
    some (value :: values)

/-- The members of an object with the values that they stand for. -/
def memberValues? : List (String × RawJson) → Option (List (String × Json))
  | [] => some []
  | (k, v) :: rest => do
    let value ← v.value?
    let values ← memberValues? rest
    some ((k, value) :: values)

end

def string? : RawJson → Option String
  | .string s => some s
  | _ => none

/-- Reads a tag: a string, or an object whose only member has that key and no value. -/
def tag? : RawJson → Option String
  | .string s => some s
  | .object [(key, .null)] => some key
  | _ => none

def bool? : RawJson → Option Bool
  | .bool b => some b
  | _ => none

def integer? (low high : Int) : RawJson → Option Int
  | .number (.integer n) => if low ≤ n ∧ n ≤ high then some n else none
  | _ => none

def int32? (v : RawJson) : Option Int32 :=
  (v.integer? (-2 ^ (31 : Nat)) (2 ^ (31 : Nat) - 1)).map .ofInt

def uint32? (v : RawJson) : Option UInt32 :=
  (v.integer? 0 (2 ^ (32 : Nat) - 1)).map fun n => .ofNat n.toNat

def uint64? (v : RawJson) : Option UInt64 :=
  (v.integer? 0 (2 ^ (64 : Nat) - 1)).map fun n => .ofNat n.toNat

/-- Reads a decimal from a number or from its text. -/
def decimal? : RawJson → Option Decimal
  | .number (.integer n) => Decimal.ofInt? n
  | .number (.binary x) => Decimal.ofBinary64? x
  | .string s => Decimal.parse? s
  | _ => none

/-- Reads an object as a value. -/
def object? (v : RawJson) : Option (Dictionary Json) := v.value?.bind (·.asObject?)

def list? {α : Type} (read : RawJson → Option α) : RawJson → Option (List α)
  | .array items => items.mapM read
  | _ => none

/-- Reads an object whose members have one type; the last of repeated keys counts. -/
def dictionary? {α : Type} (read : RawJson → Option α) : RawJson → Option (Dictionary α)
  | .object members =>
    (members.mapM fun m => (read m.2).map (m.1, ·)).map Dictionary.ofList
  | _ => none

end RawJson

end AdExchange
