import AdExchange.Json.Raw

/-!
# Reading and writing records

A record type is read from an object by the names of its fields.  A known field may be there only
once.  What else the object holds depends on the type: an *open* record keeps it as a dictionary,
a *closed* record does not even look at it.  A closed record may also be written as an array of
its fields in their order; fields that may be omitted may then be missing at the end.
-/

namespace AdExchange

/-- The known fields of a record, each at most once. -/
abbrev Members := List (String × RawJson)

/-- A field of a closed record. -/
structure FieldRule where
  name : String
  /-- The field may be left out at the end of an array. -/
  omittable : Bool

namespace FieldRule

/-- A field that an array must give. -/
def given (name : String) : FieldRule := ⟨name, false⟩

/-- A field that an array may leave out at its end. -/
def omitted (name : String) : FieldRule := ⟨name, true⟩

end FieldRule

namespace RawJson

/-- No name of the list is the key of two members. -/
def noneRepeated (names : List String) (members : List (String × RawJson)) : Bool :=
  names.all fun name => (members.filter (·.1 == name)).length ≤ 1

/-- The known fields of an object, and all its other members. -/
def splitRecord? (names : List String) : RawJson → Option (Members × List (String × RawJson))
  | .object members =>
    if noneRepeated names members then some (members.partition (names.contains ·.1)) else none
  | _ => none

/-- The known fields of an object and the dictionary of all others. -/
def openRecord? (names : List String) (v : RawJson) : Option (Members × Dictionary Json) := do
  let (known, rest) ← v.splitRecord? names
  let others ← memberValues? rest
  some (known, Dictionary.ofList others)

/-- The known fields of an object, or the fields of an array in their order. -/
def closedRecord? (rules : List FieldRule) : RawJson → Option Members
  | .object members =>
    let names := rules.map (·.name)
    if noneRepeated names members then some (members.filter (names.contains ·.1)) else none
  | .array items =>
    if items.length ≤ rules.length ∧ (rules.drop items.length).all (·.omittable) then
      some ((rules.map (·.name)).zip items)
    else none
  | _ => none

end RawJson

namespace Members

variable {α : Type}

/-- Reads a field that must be there. -/
def required? (m : Members) (name : String) (read : RawJson → Option α) : Option α :=
  (List.lookup name m).bind read

/-- Reads a field that may be missing or `null`. -/
def optional? (m : Members) (name : String) (read : RawJson → Option α) : Option (Option α) :=
  match List.lookup name m with
  | none => some none
  | some .null => some none
  | some v => (read v).map some

/-- Reads a field that may be missing but not `null`. -/
def withDefault? (m : Members) (name : String) (default : α) (read : RawJson → Option α) :
    Option α :=
  match List.lookup name m with
  | none => some default
  | some v => read v

end Members

namespace Json

/-- The object of the known fields that are there and of all others. -/
def openRecord (fields : List (String × Option Json)) (others : Dictionary Json) : Json :=
  .object (Dictionary.ofList ((fields.filterMap fun (k, v) => v.map (k, ·)) ++ others))

/-- A list, left out if it is empty. -/
def nonempty? (items : List Json) : Option Json :=
  if items.isEmpty then none else some (.array items)

def dictionary {α : Type} (write : α → Json) (d : Dictionary α) : Json :=
  .object (d.mapValues write)

/-- A dictionary of strings to decimals, which keep their scale. -/
def decimals (d : Dictionary Decimal) : Json := dictionary (fun x => .string x.toText) d

end Json

end AdExchange
