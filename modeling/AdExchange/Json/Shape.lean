import AdExchange.Json.Reader

/-!
# The shape of a type in JSON

A text may fail to be read as some type for two reasons: it is not JSON, or it is JSON of another
type.  Where a text has faults of both kinds the first one counts, as a reader meets it that goes
from left to right and stops as soon as it knows enough.  A shape says what such a reader expects.

At a value of the wrong kind the reader stops at the opening bracket of an array or object, but
behind any other value.  A missing field is noticed at the end of its record, a repeated one at its
second key, and an item too many in an array of fields is no longer JSON that could be read.
-/

namespace AdExchange

/-- What is wrong with a text. -/
inductive TextFault where
  /-- It is not JSON. -/
  | malformed
  /-- It is JSON of another type. -/
  | refused
  deriving DecidableEq, Inhabited

/-- Whether a field has to be there. -/
inductive Presence where
  | required
  /-- It may be missing or `null`. -/
  | optional
  /-- It may be missing but not `null`. -/
  | defaulted
  deriving DecidableEq, Inhabited

/-- The name of a field, and whether it has to be there. -/
structure FieldHead where
  name : String
  presence : Presence
  deriving DecidableEq, Inhabited

/-- What becomes of the members of an object that are no fields. -/
inductive OtherMembers where
  /-- Nobody reads them. -/
  | ignored
  /-- They are kept as they are. -/
  | kept
  /-- They are kept, and read when the end of the object has been found. -/
  | leaves (accepts : RawJson → Bool)

/-- What a type looks like in JSON. -/
inductive Shape where
  /-- No array and no object. -/
  | leaf (accepts : RawJson → Bool)
  /-- Any value. -/
  | anything
  /-- Any text of the form of a value, whether it stands for one or not. -/
  | ignored
  | nullable (shape : Shape)
  | list (item : Shape)
  /-- Keys and values; the keys may be limited. -/
  | dictionary (keys : Option (List String)) (value : Shape)
  /-- Named fields.  If all others are ignored, an array of the fields will do as well. -/
  | record (fields : List (FieldHead × Shape)) (others : OtherMembers)

namespace Shape

/-- What a reader of plain values accepts. -/
def read {α : Type} (read? : RawJson → Option α) : Shape := .leaf fun v => (read? v).isSome

def text : Shape := .read RawJson.string?

def flag : Shape := .read RawJson.bool?

def int32 : Shape := .read RawJson.int32?

def uint32 : Shape := .read RawJson.uint32?

def uint64 : Shape := .read RawJson.uint64?

def decimal : Shape := .read RawJson.decimal?

def texts : Shape := .list text

/-- An object of any values. -/
def object : Shape := .dictionary none .anything

/-- A field that has to be there. -/
def required (name : String) (shape : Shape) : FieldHead × Shape := (⟨name, .required⟩, shape)

/-- A field that may be missing or `null`. -/
def optional (name : String) (shape : Shape) : FieldHead × Shape := (⟨name, .optional⟩, shape)

/-- A field that may be missing but not `null`. -/
def defaulted (name : String) (shape : Shape) : FieldHead × Shape := (⟨name, .defaulted⟩, shape)

open JsonText

/-- Reads any value; one that stands for nothing is not JSON. -/
def readValue (fuel depth : Nat) (s : Octets) : Except TextFault (RawJson × Octets) :=
  match JsonText.value? .stepwise fuel depth s with
  | some (v, rest) => if v.value?.isSome then .ok (v, rest) else .error .malformed
  | none => .error .malformed

/-- Reads a value that is neither an array nor an object. -/
def readLeaf (fuel depth : Nat) (s : Octets) : Except TextFault (RawJson × Octets) :=
  match s with
  | b :: _ => if b = octet '[' ∨ b = octet '\x7b' then .error .refused else readValue fuel depth s
  | [] => .error .malformed

def enter (opening : Char) (fuel depth : Nat) (s : Octets) : Except TextFault Octets :=
  match expect? opening s with
  | some rest => if depthLimit < depth + 1 then .error .malformed else .ok (skipBlanks rest)
  | none => do
    let _ ← readLeaf fuel depth s
    .error .refused

/-- Passes over one character behind blanks. -/
def pass (c : Char) (s : Octets) : Except TextFault Octets :=
  match expect? c (skipBlanks s) with
  | some rest => .ok (skipBlanks rest)
  | none => .error .malformed

/-- Reads a key and the colon's place is next. -/
def readKey (s : Octets) : Except TextFault (String × Octets) :=
  match (expect? '"' s).bind JsonText.string? with
  | some (some key, rest) => .ok (key, rest)
  | _ => .error .malformed

/-- The field of a record that has a name. -/
def field? (fields : List (FieldHead × Shape)) (name : String) : Option (FieldHead × Shape) :=
  fields.find? (·.1.name == name)

def fieldShape (field : FieldHead × Shape) : Shape :=
  if field.1.presence = .optional then .nullable field.2 else field.2

/-- What the value of a key looks like, given the keys before it. -/
def memberShape (shape : Shape) (seen : List String) (key : String) : Except TextFault Shape :=
  match shape with
  | .dictionary keys value =>
    if keys.all (·.contains key) then .ok value else .error .refused
  | .record fields others =>
    match field? fields key, others with
    | some field, _ => if seen.contains key then .error .refused else .ok (fieldShape field)
    | none, .ignored => .ok .ignored
    | none, _ => .ok .anything
  | _ => .ok .ignored

/-- A member that no field takes cannot be read at the end of the object. -/
def isRefusedLate (shape : Shape) (key : String) (v : RawJson) : Bool :=
  match shape with
  | .record fields (.leaves accepts) => (field? fields key).isNone && !accepts v
  | _ => false

/-- Nothing is missing of an object with these keys. -/
def isComplete (shape : Shape) (seen : List String) : Bool :=
  match shape with
  | .record fields _ => fields.all fun f => f.1.presence ≠ .required || seen.contains f.1.name
  | _ => true

/-- Ends an object with these keys. -/
def leaveObject (shape : Shape) (seen : List String) (late : Bool) (rest : Octets) :
    Except TextFault Octets :=
  if isComplete shape seen && !late then .ok rest else .error .refused

mutual

/-- Reads a value of a shape inside `depth` containers; gives what follows it. -/
def check (fuel depth : Nat) (shape : Shape) (s : Octets) : Except TextFault Octets :=
  match fuel with
  | 0 => .error .malformed
  | fuel + 1 =>
    match shape with
    | .leaf accepts => do
      let (v, rest) ← readLeaf fuel depth s
      if accepts v then .ok rest else .error .refused
    | .anything => (readValue fuel depth s).map (·.2)
    | .ignored =>
      match JsonText.value? .stepwise fuel depth s with
      | some (_, rest) => .ok rest
      | none => .error .malformed
    | .nullable inner =>
      match s.head?, expectWord? "null" s with
      | _, some rest => .ok rest
      | b, none => if b = some (octet 'n') then .error .malformed else check fuel depth inner s
    | .list item => do
      let s ← enter '[' fuel depth s
      match expect? ']' s with
      | some rest => .ok rest
      | none => checkItems fuel (depth + 1) item s
    | .dictionary keys value => do
      let s ← enter '\x7b' fuel depth s
      match expect? '\x7d' s with
      | some rest => .ok rest
      | none => checkMembers fuel (depth + 1) (.dictionary keys value) [] false s
    | .record fields .ignored =>
      match expect? '[' s with
      | some _ => do
        let s ← enter '[' fuel depth s
        checkFields fuel (depth + 1) fields true s
      | none => do
        let s ← enter '\x7b' fuel depth s
        match expect? '\x7d' s with
        | some rest => leaveObject (.record fields .ignored) [] false rest
        | none => checkMembers fuel (depth + 1) (.record fields .ignored) [] false s
    | .record fields others => do
      let s ← enter '\x7b' fuel depth s
      match expect? '\x7d' s with
      | some rest => leaveObject (.record fields others) [] false rest
      | none => checkMembers fuel (depth + 1) (.record fields others) [] false s

/-- Reads the items of an array up to its end. -/
def checkItems (fuel depth : Nat) (item : Shape) (s : Octets) : Except TextFault Octets :=
  match fuel with
  | 0 => .error .malformed
  | fuel + 1 => do
    let rest ← check fuel depth item s
    match expect? ']' (skipBlanks rest) with
    | some rest => .ok rest
    | none =>
      let rest ← pass ',' rest
      checkItems fuel depth item rest

/-- Reads the fields of a record from the items of an array up to its end. -/
def checkFields (fuel depth : Nat) (fields : List (FieldHead × Shape)) (first : Bool)
    (s : Octets) : Except TextFault Octets :=
  match fuel with
  | 0 => .error .malformed
  | fuel + 1 =>
    match expect? ']' (skipBlanks s), fields with
    | some rest, _ =>
      if fields.all (·.1.presence = .defaulted) then .ok rest else .error .refused
    | none, [] => .error .malformed
    | none, field :: fields => do
      let s ← if first then .ok s else pass ',' s
      let rest ← check fuel depth (fieldShape field) s
      checkFields fuel depth fields false rest

/-- Reads the members of an object up to its end. -/
def checkMembers (fuel depth : Nat) (shape : Shape) (seen : List String) (late : Bool)
    (s : Octets) : Except TextFault Octets :=
  match fuel with
  | 0 => .error .malformed
  | fuel + 1 => do
    let (key, rest) ← readKey s
    let value ← memberShape shape seen key
    let s ← pass ':' rest
    let rest ← check fuel depth value s
    let refused := (JsonText.value? .stepwise fuel depth s).any fun r => isRefusedLate shape key r.1
    let seen := key :: seen
    let late := late || refused
    match expect? '\x7d' (skipBlanks rest) with
    | some rest => leaveObject shape seen late rest
    | none =>
      let rest ← pass ',' rest
      checkMembers fuel depth shape seen late rest

end

/-- The first fault of a text that is to have a shape. -/
def fault? (shape : Shape) (octets : List UInt8) : Option TextFault :=
  match check (4 * octets.length + 4) 0 shape (skipBlanks octets) with
  | .ok rest => if (skipBlanks rest).isEmpty then none else some .malformed
  | .error fault => some fault

end Shape

end AdExchange
