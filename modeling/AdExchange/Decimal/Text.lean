import AdExchange.Decimal.Basic
import AdExchange.Number.Shortest

/-!
# Decimals as text

A decimal is read from an optional sign and digits with at most one point; underscores may stand
behind a digit.  Places that a decimal cannot hold are rounded: the first digit that does not fit
decides, and a five goes up.  A text that is no such decimal may still be one followed by `e` and a
power of ten.  A positive power must leave a number that fits; a negative one may push digits out
at the end, which are rounded in the same way and may leave no more than a zero with a sign.

Writing keeps the scale.  With a fixed number of places the digits are cut off, not rounded.
-/

namespace AdExchange

open scoped CorePower

namespace Decimal

/-- What has been read of a decimal. -/
structure Scan where
  mantissa : Nat := 0
  scale : Nat := 0
  /-- The point has been passed. -/
  fraction : Bool := false
  /-- Some digit has been read. -/
  digits : Bool := false

def digit? (c : Char) : Option Nat := if c.isDigit then some (c.toNat - '0'.toNat) else none

/-- Nothing but digits and underscores. -/
def isDigits (cs : List Char) : Bool := cs.all fun c => c.isDigit || c == '_'

/-- Ends a number at the first place that does not fit, whose digit is `d`.  What follows must
still be digits. -/
def Scan.roundUp? (s : Scan) (d : Nat) (rest : List Char) : Option (Nat × Nat) :=
  let m := if 5 ≤ d then s.mantissa + 1 else s.mantissa
  if !isDigits rest then none
  else if m < 2 ^ (96 : Nat) then some (m, s.scale)
  else if s.scale = 0 then none
  else some ((m + 4) / 10, s.scale - 1)

/-- From here on a mantissa has no room for ten more digits in 64 bits, with some to spare. -/
def wideMantissa : Nat := (2 ^ (64 : Nat) - 1) / 10 - 255

/-- An underscore behind the last place is passed over if the digits before that place are many;
behind few digits it stands for a zero. -/
def Scan.passesUnderscore (s : Scan) : Bool := wideMantissa ≤ s.mantissa / 10

/-- Reads the rest of a number without sign; gives mantissa and scale. -/
def Scan.run? (s : Scan) : List Char → Option (Nat × Nat)
  | [] => if s.digits then some (s.mantissa, s.scale) else none
  | c :: rest =>
    if s.fraction ∧ 28 ≤ s.scale then
      match digit? c with
      | some d => s.roundUp? d rest
      | none =>
        if c ≠ '_' then none
        else if s.passesUnderscore then Scan.run? s rest
        else s.roundUp? 0 rest
    else
      match digit? c with
      | some d =>
        let m := s.mantissa * 10 + d
        if m < 2 ^ (96 : Nat) then
          let scale := if s.fraction then s.scale + 1 else 0
          Scan.run? { s with mantissa := m, scale := scale, digits := true } rest
        else if s.fraction then s.roundUp? d rest
        else none
      | none =>
        if c = '.' ∧ !s.fraction then Scan.run? { s with fraction := true } rest
        else if c = '_' ∧ s.digits then Scan.run? s rest
        else none

/-- Reads a decimal without exponent. -/
def parsePlain? (cs : List Char) : Option Decimal :=
  let (negative, body) := match cs with
    | '-' :: rest => (true, rest)
    | '+' :: rest => (false, rest)
    | _ => (false, cs)
  do
    let (m, s) ← Scan.run? {} body
    ofParts? negative m s

/-- Reads a natural number below `2 ^ 32`, with or without a plus sign. -/
def exponent? (cs : List Char) : Option Nat :=
  let body := match cs with
    | '+' :: rest => rest
    | _ => cs
  if body.isEmpty then none
  else do
    let n ← body.foldlM (fun n c => (digit? c).map (n * 10 + ·)) 0
    if n < 2 ^ (32 : Nat) then some n else none

/-- The decimal times `10 ^ e`, if that is exact. -/
def shiftUp? (d : Decimal) (e : Nat) : Option Decimal :=
  if e ≤ d.scale then ofParts? d.negative d.mantissa (d.scale - e)
  else if 28 < e then none
  else ofParts? d.negative (d.mantissa * 10 ^ (e - d.scale)) 0

/-- The decimal divided by `10 ^ e`, for `e` up to 28.  Places beyond the last one are rounded, a
half away from zero; the sign stays. -/
def shiftDown? (d : Decimal) (e : Nat) : Option Decimal :=
  if 28 < e then none
  else
    let beyond := d.scale + e - 28
    let mantissa := (2 * d.mantissa + 10 ^ beyond) / (2 * 10 ^ beyond)
    if beyond = 0 then ofParts? d.negative d.mantissa (d.scale + e)
    else ofSignedParts? d.negative mantissa 28

/-- Reads a decimal with an exponent. -/
def parseScientific? (cs : List Char) : Option Decimal :=
  let isMark := fun c : Char => c = 'e' || c = 'E'
  match cs.dropWhile (!isMark ·) with
  | [] => none
  | _ :: power => do
    let base ← parsePlain? (cs.takeWhile (!isMark ·))
    match power with
    | '-' :: digits =>
      let e ← exponent? digits
      base.shiftDown? e
    | _ =>
      let e ← exponent? power
      base.shiftUp? e

/-- Reads a decimal, without or with an exponent. -/
def parse? (text : String) : Option Decimal :=
  (parsePlain? text.toList).orElse fun _ => parseScientific? text.toList

/-- The digits of a number, with zeros in front if it has fewer than `places` and one more. -/
def paddedDigits (n places : Nat) : List Char :=
  let ds := Nat.toDigits 10 n
  List.replicate (places + 1 - ds.length) '0' ++ ds

def signText (d : Decimal) : String := if d.negative then "-" else ""

/-- The digits before the point and those behind it. -/
def wholeAndPlaces (d : Decimal) : List Char × List Char :=
  let ds := paddedDigits d.mantissa d.scale
  (ds.take (ds.length - d.scale), ds.drop (ds.length - d.scale))

/-- Sign, digits and point put together; no point if no digit follows it. -/
def joined (sign : String) (whole places : List Char) : String :=
  sign ++ String.ofList whole ++ (if places.isEmpty then "" else "." ++ String.ofList places)

/-- The decimal with all places of its scale. -/
def toText (d : Decimal) : String :=
  let (whole, places) := d.wholeAndPlaces
  joined d.signText whole places

/-- The decimal without trailing zeros, and without a sign if it is zero. -/
def plainText (d : Decimal) : String :=
  let (whole, places) := d.wholeAndPlaces
  joined (if d.isZero then "" else d.signText) whole (places.reverse.dropWhile (· == '0')).reverse

/-- How many characters a decimal with a fixed number of places may have; its sign and its places
beyond the 28th do not count. -/
def widthLimit : Nat := 32

/-- The decimal with exactly `n` places: further ones are cut off, missing ones are zeros.  There is
no such text if it becomes too wide, or if `n` does not fit in 16 bits. -/
def truncatedText? (d : Decimal) (n : Nat) : Option String :=
  let (whole, places) := d.wholeAndPlaces
  let width := if n = 0 then whole.length else whole.length + 1 + min n 28
  if 2 ^ (16 : Nat) ≤ n ∨ widthLimit < width then none
  else some (joined d.signText whole (places.take n ++ List.replicate (n - places.length) '0'))

/-- The decimal that the shortest text of a binary number reads as. -/
def ofBinary64? (x : Binary64) : Option Decimal := parsePlain? x.positionalText.toList

/-- The magnitude of a decimal with places as a binary number.  What stands before the point and the
places are turned into binary numbers each on its own, and their sum is rounded to the decimal's
places.  Every step is one rounding, so the result may lie next to the nearest binary number. -/
def magnitude64? (d : Decimal) : Option Binary64 := do
  let power := 10 ^ d.scale
  let whole ← Binary64.ofNat? (d.mantissa / power)
  let unit ← Binary64.ofNat? power
  let places ← (← Binary64.ofNat? (d.mantissa % power)).div? unit
  let sum ← whole.add? places
  if d.mantissa % power = 0 then some whole
  else (← (← sum.mul? unit).roundInteger?).div? unit

/-- The binary number for a decimal.  An integer is rounded once. -/
def toBinary64 (d : Decimal) : Binary64 :=
  if d.scale = 0 then (Binary64.ofRatio? (d.negative && !d.isZero) d.mantissa 1).getD .zero
  else
    let x := d.magnitude64?.getD .zero
    if d.negative then x.neg else x

end Decimal

end AdExchange
