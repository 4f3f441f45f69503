import AdExchange.Number.Binary64

/-!
# The shortest decimal text of a binary64 number

All decimals strictly between the midpoints to a number's two neighbours read back as that number;
the midpoints do so too if its significand is even.  The text of a number is the decimal with the
fewest digits in that interval, and of those the nearest.  Whether a grid of decimals meets the
interval is decided by the two grid points next to the number, in exact arithmetic.
-/

namespace AdExchange

open scoped CorePower

namespace Binary64

def decimalLength (n : Nat) : Nat := (Nat.toDigits 10 n).length

/-- `num / den` in units of `10 ^ k`, as numerator and denominator. -/
def decimalRatio (num den : Nat) (k : Int) : Nat × Nat :=
  match k with
  | .ofNat j => (num, den * 10 ^ j)
  | .negSucc j => (num * 10 ^ (j + 1), den)

/-- The greatest `p` with `10 ^ p ≤ num / den`, for positive arguments. -/
def log10Ratio (num den : Nat) : Int :=
  let p : Int := (decimalLength num : Int) - decimalLength den
  let (n, d) := decimalRatio num den p
  if d ≤ n then p else p - 1

/-- The decimals that read back as a number, and the number itself, over one denominator. -/
structure Interval where
  low : Nat
  value : Nat
  high : Nat
  den : Nat
  closed : Bool

/-- The interval of a nonzero number.  The gap below a power of two is half the gap above it. -/
def interval (x : Binary64) : Interval :=
  let m := x.significand
  let below := if m = 2 ^ (52 : Nat) ∧ x.exponent ≠ -1074 then 1 else 2
  let (unit, den) := scaleRatio 1 1 (x.exponent - 2)
  ⟨(4 * m - below) * unit, 4 * m * unit, (4 * m + 2) * unit, den, m % 2 == 0⟩

/-- The multiple of `10 ^ k` in the interval that is nearest to the value, in units of `10 ^ k`. -/
def Interval.onGrid? (i : Interval) (k : Int) : Option Nat :=
  let (_, d) := decimalRatio 0 i.den k
  let scale := (decimalRatio 1 1 k).1
  let inside := fun c : Nat =>
    if i.closed then decide (i.low * scale ≤ c * d ∧ c * d ≤ i.high * scale)
    else decide (i.low * scale < c * d ∧ c * d < i.high * scale)
  let c := i.value * scale / d
  let r := i.value * scale % d
  let nearer := if 2 * r < d then c else if d < 2 * r then c + 1 else c + c % 2
  let farther := if nearer = c then c + 1 else c
  if inside nearer then some nearer
  else if inside farther then some farther
  else none

/-- Looks for a decimal with `n` digits, then with one digit more, and so on. -/
def Interval.search (i : Interval) (top : Int) (n : Nat) : Nat → Nat × Int
  | 0 => (i.value / i.den, 0)
  | fuel + 1 =>
    let k := top - n + 1
    match i.onGrid? k with
    | some c => (c, k)
    | none => i.search top (n + 1) fuel

/-- Moves trailing zeros of the digits into the power of ten. -/
def stripZeros (digits : Nat) (k : Int) : Nat → Nat × Int
  | 0 => (digits, k)
  | fuel + 1 =>
    if digits ≠ 0 ∧ digits % 10 = 0 then stripZeros (digits / 10) (k + 1) fuel else (digits, k)

/-- The fewest digits that read back, and the power of ten that goes with them.  Seventeen digits
always suffice. -/
def shortest (x : Binary64) : Nat × Int :=
  if x.ordinal = 0 then (0, 0)
  else
    let i := x.interval
    let (c, k) := i.search (log10Ratio i.value i.den) 1 17
    stripZeros c k 17

def zeros (n : Int) : String := String.ofList (List.replicate n.toNat '0')

/-- `digits * 10 ^ k` written out in full. -/
def placeDigits (digits : Nat) (k : Int) : String :=
  let ds := Nat.toDigits 10 digits
  let point : Int := ds.length + k
  if 0 ≤ k then String.ofList ds ++ zeros k
  else if 0 < point then
    String.ofList (ds.take point.toNat) ++ "." ++ String.ofList (ds.drop point.toNat)
  else "0." ++ zeros (-point) ++ String.ofList ds

def signText (x : Binary64) : String := if x.negative then "-" else ""

/-- The shortest digits, written out without an exponent and without a needless decimal point. -/
def positionalText (x : Binary64) : String :=
  let (digits, k) := x.shortest
  x.signText ++ placeDigits digits k

/-- The shortest digits with one digit in front of the point and the power of ten behind an `e`. -/
def exponentText (digits : Nat) (k : Int) : String :=
  let ds := Nat.toDigits 10 digits
  let mantissa := match ds with
    | [] => "0"
    | [d] => String.ofList [d]
    | d :: rest => String.ofList (d :: '.' :: rest)
  mantissa ++ "e" ++ toString (ds.length + k - 1 : Int)

/-- The shortest digits as a JSON number that no reader takes for an integer: magnitudes from
`1e-5` up to `1e16` are written out with at least one decimal place, all others with an exponent. -/
def jsonText (x : Binary64) : String :=
  let (digits, k) := x.shortest
  let point : Int := (Nat.toDigits 10 digits).length + k
  let body :=
    if 0 ≤ k ∧ point ≤ 16 then placeDigits digits k ++ ".0"
    else if -5 < point ∧ point ≤ 16 then placeDigits digits k
    else exponentText digits k
  x.signText ++ body

end Binary64

end AdExchange
