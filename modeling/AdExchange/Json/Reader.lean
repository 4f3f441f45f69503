import AdExchange.Json.Raw

/-!
# Parsing JSON text

The parser works on octets and accepts strict JSON with nothing but blanks around it.  What is
well formed but stands for no value becomes `RawJson.unreadable` and is left to whoever reads it:
a string that is not UTF-8 or has half of a surrogate pair, a number past the largest binary64
number, and an array or object nested deeper than `depthLimit`.

Numbers without point and exponent are integers as long as 64 bits hold them.  All others are
binary numbers, and there are two ways to read them.  A stepwise reading takes the leading digits
that fit in 64 bits for the significand, rounds it to binary64, and then multiplies it with the
binary64 number nearest to the power of ten, or divides it.  An exact reading rounds once; it has
no place for integers that 64 bits do not hold, knows no minus zero without a point, and refuses
a text with a number that it cannot read.
-/

namespace AdExchange

open scoped CorePower

/-- How deep arrays and objects may be nested. -/
def depthLimit : Nat := 127

/-- How a number with a point or an exponent is read. -/
inductive NumberReading where
  /-- The significand is rounded, and then its product with a power of ten. -/
  | stepwise
  /-- Rounded once, to the nearest. -/
  | exact
  deriving DecidableEq, Inhabited

/-- The parts of a JSON number as it is written. -/
structure Numeral where
  negative : Bool
  whole : List Nat
  /-- The digits behind the point; none if there is no point. -/
  places : List Nat
  /-- The power of ten, if one is written. -/
  power : Option Int

namespace Numeral

/-- Takes digits into a significand of 64 bits; gives the significand, how many digits it took and
how many were left. -/
def takeDigits (significand : Nat) : List Nat → Nat × Nat × Nat
  | [] => (significand, 0, 0)
  | d :: rest =>
    if significand * 10 + d < 2 ^ (64 : Nat) then
      let (s, taken, left) := takeDigits (significand * 10 + d) rest
      (s, taken + 1, left)
    else (significand, 0, rest.length + 1)

def tenTo? (n : Nat) : Option Binary64 := Binary64.ofNat? (10 ^ n)

/-- Multiplies by a power of ten; a step below `10 ^ -308` is taken at a time. -/
def scale? (x : Binary64) (power : Int) : Nat → Option Binary64
  | 0 => some .zero
  | fuel + 1 =>
    if x.ordinal = 0 then some x
    else if 308 < power then none
    else if 0 ≤ power then (tenTo? power.toNat).bind x.mul?
    else if -308 ≤ power then (tenTo? power.natAbs).bind x.div?
    else do
      let y ← (tenTo? 308).bind x.div?
      scale? y (power + 308) fuel

/-- The binary64 number that a numeral stands for. -/
def binary? (n : Numeral) : Option Binary64 := do
  let (s, _, skipped) := takeDigits 0 n.whole
  let (s, taken, _) := takeDigits s n.places
  let magnitude ← Binary64.ofNat? s
  let x ← scale? magnitude ((skipped : Int) - taken + n.power.getD 0) 5
  some (if n.negative then x.neg else x)

def ofDigits (digits : List Nat) : Nat := digits.foldl (fun m d => m * 10 + d) 0

/-- The binary64 number nearest to what a numeral stands for.  Powers far outside of the range are
not computed. -/
def nearest? (n : Numeral) : Option Binary64 :=
  let digits := n.whole ++ n.places
  let power := n.power.getD 0 - n.places.length
  if ofDigits digits = 0 ∨ power + digits.length < -400 then Binary64.ofRatio? n.negative 0 1
  else if 400 < power then none
  else Binary64.ofRatio? n.negative (ofDigits digits * 10 ^ power.toNat) (10 ^ (-power).toNat)

def integer? (n : Numeral) : Option Int :=
  let magnitude : Int := ofDigits n.whole
  if n.places.isEmpty ∧ n.power.isNone then some (if n.negative then -magnitude else magnitude)
  else none

/-- The number that a numeral stands for; `none` past the largest binary64 number. -/
def number? (reading : NumberReading) (n : Numeral) : Option Json.Number :=
  match reading, n.integer? with
  | .stepwise, some value =>
    if -2 ^ (63 : Nat) ≤ value ∧ value < 2 ^ (64 : Nat) ∧ !(n.negative && value == 0) then
      some (.integer value)
    else n.binary?.map .binary
  | .exact, some value =>
    if -2 ^ (63 : Nat) ≤ value ∧ value < 2 ^ (64 : Nat) then some (.integer value) else none
  | .stepwise, none => n.binary?.map .binary
  | .exact, none => n.nearest?.map .binary

end Numeral

namespace JsonText

/-- What is left to parse. -/
abbrev Octets := List UInt8

def octet (c : Char) : UInt8 := c.toNat.toUInt8

def isBlank (b : UInt8) : Bool :=
  b == octet ' ' || b == octet '\n' || b == octet '\r' || b == octet '\t'

def skipBlanks (s : Octets) : Octets := s.dropWhile isBlank

def digit? (b : UInt8) : Option Nat :=
  if octet '0' ≤ b ∧ b ≤ octet '9' then some (b.toNat - 48) else none

def hexDigit? (b : UInt8) : Option Nat :=
  if octet '0' ≤ b ∧ b ≤ octet '9' then some (b.toNat - 48)
  else if octet 'a' ≤ b ∧ b ≤ octet 'f' then some (b.toNat - 87)
  else if octet 'A' ≤ b ∧ b ≤ octet 'F' then some (b.toNat - 55)
  else none

def expect? (c : Char) : Octets → Option Octets
  | b :: rest => if b = octet c then some rest else none
  | [] => none

def expectWord? (word : String) (s : Octets) : Option Octets :=
  word.toList.foldlM (fun rest c => expect? c rest) s

/-- The digits at the front and what follows them. -/
def digits (s : Octets) : List Nat × Octets :=
  ((s.takeWhile fun b => (digit? b).isSome).filterMap digit?,
    s.dropWhile fun b => (digit? b).isSome)

/-- The digits behind a point, if there is one; a point needs a digit. -/
def places? (s : Octets) : Option (List Nat × Octets) :=
  match s with
  | b :: rest =>
    if b = octet '.' then
      match digits rest with
      | ([], _) => none
      | found => some found
    else some ([], s)
  | [] => some ([], s)

/-- The power of ten behind an `e`, if there is one. -/
def power? (s : Octets) : Option (Option Int × Octets) :=
  match s with
  | b :: rest =>
    if b = octet 'e' ∨ b = octet 'E' then
      let (negative, rest) := match rest with
        | c :: more =>
          if c = octet '-' then (true, more) else if c = octet '+' then (false, more)
          else (false, rest)
        | [] => (false, rest)
      match digits rest with
      | ([], _) => none
      | (ds, rest) =>
        let n : Nat := ds.foldl (fun m d => m * 10 + d) 0
        some (some (if negative then -(n : Int) else n), rest)
    else some (none, s)
  | [] => some (none, s)

/-- Parses a number.  Only a zero may start with a zero. -/
def numeral? (s : Octets) : Option (Numeral × Octets) := do
  let (negative, s) := match s with
    | b :: rest => if b = octet '-' then (true, rest) else (false, s)
    | [] => (false, s)
  let (whole, s) := digits s
  match whole with
  | [] => none
  | 0 :: _ :: _ => none
  | _ =>
    let (places, s) ← places? s
    let (power, s) ← power? s
    some (⟨negative, whole, places, power⟩, s)

def hex4? : Octets → Option (Nat × Octets)
  | a :: b :: c :: d :: rest => do
    let a ← hexDigit? a
    let b ← hexDigit? b
    let c ← hexDigit? c
    let d ← hexDigit? d
    some (((a * 16 + b) * 16 + c) * 16 + d, rest)
  | _ => none

/-- One piece of a string. -/
inductive Piece where
  /-- An octet that stands for itself. -/
  | octet (b : UInt8)
  /-- An escaped UTF-16 unit. -/
  | unit (n : Nat)

/-- The octet that a one-letter escape stands for. -/
def shortEscape? (b : UInt8) : Option UInt8 :=
  if b = octet '"' ∨ b = octet '\\' ∨ b = octet '/' then some b
  else if b = octet 'b' then some 8
  else if b = octet 'f' then some 12
  else if b = octet 'n' then some 10
  else if b = octet 'r' then some 13
  else if b = octet 't' then some 9
  else none

/-- Parses a string behind its opening quote into pieces, the last one first. -/
def pieces? (found : List Piece) : Nat → Octets → Option (List Piece × Octets)
  | 0, _ => none
  | _, [] => none
  | fuel + 1, b :: rest =>
    if b = octet '"' then some (found, rest)
    else if b < 32 then none
    else if b = octet '\\' then
      match rest with
      | [] => none
      | e :: more =>
        if e = octet 'u' then do
          let (n, more) ← hex4? more
          pieces? (.unit n :: found) fuel more
        else do
          let c ← shortEscape? e
          pieces? (.octet c :: found) fuel more
    else pieces? (.octet b :: found) fuel rest

/-- The octets that the pieces stand for; `none` for half of a surrogate pair. -/
def assemble? : List Piece → Option (List UInt8)
  | [] => some []
  | .octet b :: rest => (assemble? rest).map (b :: ·)
  | .unit n :: rest =>
    if 0xD800 ≤ n ∧ n ≤ 0xDBFF then
      match rest with
      | .unit m :: more =>
        if 0xDC00 ≤ m ∧ m ≤ 0xDFFF then
          let c := Char.ofNat (0x10000 + (n - 0xD800) * 0x400 + (m - 0xDC00))
          (assemble? more).map (c.toString.toUTF8.toList ++ ·)
        else none
      | _ => none
    else if 0xDC00 ≤ n ∧ n ≤ 0xDFFF then none
    else (assemble? rest).map ((Char.ofNat n).toString.toUTF8.toList ++ ·)

/-- The string that the pieces stand for, if their octets are UTF-8. -/
def stringOf? (pieces : List Piece) : Option String :=
  (assemble? pieces).bind fun octets => String.fromUTF8? ⟨octets.toArray⟩

/-- Parses a string behind its opening quote.  The inner result is `none` if it is unreadable. -/
def string? (s : Octets) : Option (Option String × Octets) := do
  let (found, rest) ← pieces? [] (s.length + 1) s
  some (stringOf? found.reverse, rest)

/-- A container at some depth, unless it is too deep. -/
def atDepth (depth : Nat) (v : RawJson) : RawJson :=
  if depthLimit < depth then .unreadable else v

mutual

/-- Parses a value inside `depth` containers.  The fuel bounds the octets that are consumed. -/
def value? (reading : NumberReading) (fuel depth : Nat) (s : Octets) : Option (RawJson × Octets) :=
  match fuel with
  | 0 => none
  | fuel + 1 =>
    match s with
    | [] => none
    | b :: rest =>
      if b = octet '{' then
        match skipBlanks rest with
        | c :: more =>
          if c = octet '\x7d' then some (atDepth (depth + 1) (.object []), more)
          else members? reading fuel (depth + 1) [] true (c :: more)
        | [] => none
      else if b = octet '[' then
        match skipBlanks rest with
        | c :: more =>
          if c = octet ']' then some (atDepth (depth + 1) (.array []), more)
          else items? reading fuel (depth + 1) [] (c :: more)
        | [] => none
      else if b = octet '"' then
        (string? rest).map fun (s, rest) => (s.elim .unreadable .string, rest)
      else if b = octet 't' then (expectWord? "true" s).map ((.bool true, ·))
      else if b = octet 'f' then (expectWord? "false" s).map ((.bool false, ·))
      else if b = octet 'n' then (expectWord? "null" s).map ((.null, ·))
      else
        match numeral? s with
        | none => none
        | some (n, rest) =>
          match n.number? reading with
          | some n => some (.number n, rest)
          | none => if reading = .exact then none else some (.unreadable, rest)

/-- Parses the items of an array up to its closing bracket; those found so far, last one first. -/
def items? (reading : NumberReading) (fuel depth : Nat) (found : List RawJson) (s : Octets) :
    Option (RawJson × Octets) :=
  match fuel with
  | 0 => none
  | fuel + 1 => do
    let (v, rest) ← value? reading fuel depth s
    match skipBlanks rest with
    | c :: more =>
      if c = octet ',' then items? reading fuel depth (v :: found) (skipBlanks more)
      else if c = octet ']' then some (atDepth depth (.array (v :: found).reverse), more)
      else none
    | [] => none

/-- Parses the members of an object up to its closing brace; those found so far, last one first.
An object with an unreadable key is itself unreadable. -/
def members? (reading : NumberReading) (fuel depth : Nat) (found : List (String × RawJson))
    (readable : Bool) (s : Octets) : Option (RawJson × Octets) :=
  match fuel with
  | 0 => none
  | fuel + 1 => do
    let rest ← expect? '"' s
    let (key, rest) ← string? rest
    let rest ← expect? ':' (skipBlanks rest)
    let (v, rest) ← value? reading fuel depth (skipBlanks rest)
    let found := (key.getD "", v) :: found
    let readable := readable && key.isSome
    match skipBlanks rest with
    | c :: more =>
      if c = octet ',' then members? reading fuel depth found readable (skipBlanks more)
      else if c = octet '\x7d' then
        some (if readable then atDepth depth (.object found.reverse) else .unreadable, more)
      else none
    | [] => none

end

end JsonText

namespace RawJson

/-- Parses a whole text, given as octets, with one way to read numbers. -/
def parseWith? (reading : NumberReading) (octets : List UInt8) : Option RawJson := do
  let (v, rest) ← JsonText.value? reading (octets.length + 1) 0 (JsonText.skipBlanks octets)
  if (JsonText.skipBlanks rest).isEmpty then some v else none

def parse? (octets : List UInt8) : Option RawJson := parseWith? .stepwise octets

/-- Parses a whole text, given as octets.  Numbers are read exactly and must all be readable, and
the octets must be UTF-8 throughout. -/
def parseExactly? (octets : List UInt8) : Option RawJson :=
  if (String.fromUTF8? ⟨octets.toArray⟩).isSome then parseWith? .exact octets else none

/-- Parses a whole text, given as a string. -/
def parseText? (text : String) : Option RawJson := parse? text.toUTF8.toList

end RawJson

end AdExchange
