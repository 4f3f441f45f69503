import AdExchange.Number.Rounding

/-!
# Finite binary64 numbers

A finite binary64 number is stored as a sign and an *ordinal*: its place among the finite
magnitudes in ascending order, zero first.  Consecutive ordinals are consecutive magnitudes, also
across a change of the exponent, so a significand that rounds up past its last value carries into
the exponent by addition alone.  Infinities and NaNs have no ordinal and so do not exist here.
-/

namespace AdExchange

open scoped CorePower

/-- A finite binary64 number: a sign, and the place of its magnitude among the finite magnitudes. -/
structure Binary64 where
  /-- Set for negative numbers and for minus zero. -/
  negative : Bool
  /-- How many finite magnitudes are smaller. -/
  ordinal : Nat
  ordinal_lt : ordinal < 2047 * 2 ^ (52 : Nat)
  deriving DecidableEq

namespace Binary64

def zero : Binary64 := ⟨false, 0, by decide⟩

instance : Inhabited Binary64 := ⟨zero⟩

def neg (x : Binary64) : Binary64 := { x with negative := !x.negative }

/-- The magnitude with this ordinal, if it is finite. -/
def ofOrdinal? (negative : Bool) (ordinal : Nat) : Option Binary64 :=
  if h : ordinal < 2047 * 2 ^ (52 : Nat) then some ⟨negative, ordinal, h⟩ else none

/-- The integer that, times `2 ^ exponent`, is the magnitude. -/
def significand (x : Binary64) : Nat :=
  if x.ordinal / 2 ^ (52 : Nat) = 0 then x.ordinal else 2 ^ (52 : Nat) + x.ordinal % 2 ^ (52 : Nat)

/-- The power of two that belongs to `significand`. -/
def exponent (x : Binary64) : Int :=
  if x.ordinal / 2 ^ (52 : Nat) = 0 then -1074 else (x.ordinal / 2 ^ (52 : Nat) : Nat) - 1075

/-- A quotient scaled by a power of two, as numerator and denominator. -/
def scaleRatio (num den : Nat) (e : Int) : Nat × Nat :=
  match e with
  | .ofNat k => (num * 2 ^ k, den)
  | .negSucc k => (num, den * 2 ^ (k + 1))

/-- The greatest `k` with `den * 2 ^ k ≤ num`, for positive arguments. -/
def log2Ratio (num den : Nat) : Int :=
  let k : Int := (num.log2 : Int) - den.log2
  let (n, d) := scaleRatio num den (-k)
  if d ≤ n then k else k - 1

/-- The number nearest to `num / den`, of two equally near ones the one with the even significand;
`none` if it lies beyond the largest finite number. -/
def ofRatio? (negative : Bool) (num den : Nat) : Option Binary64 :=
  if num = 0 then ofOrdinal? negative 0
  else
    let e : Int := max (log2Ratio num den - 52) (-1074)
    let (n, d) := scaleRatio num den (-e)
    ofOrdinal? negative ((e + 1074).toNat * 2 ^ (52 : Nat) + divHalfEven n d)

/-- The number nearest to a natural number. -/
def ofNat? (n : Nat) : Option Binary64 := ofRatio? false n 1

/-- The magnitude as numerator and denominator. -/
def ratio (x : Binary64) : Nat × Nat := scaleRatio x.significand 1 x.exponent

/-- The exact sum, rounded once; a sum of zero has no sign. -/
def add? (x y : Binary64) : Option Binary64 :=
  let signed (z : Binary64) (n : Nat) : Int := if z.negative then -(n : Int) else n
  let (n, d) := x.ratio
  let (m, e) := y.ratio
  let sum := signed x (n * e) + signed y (m * d)
  ofRatio? (decide (sum < 0)) sum.natAbs (d * e)

/-- The integer nearest to the number; a half goes away from zero. -/
def roundInteger? (x : Binary64) : Option Binary64 :=
  let (n, d) := x.ratio
  ofRatio? x.negative ((2 * n + d) / (2 * d)) 1

/-- The exact product, rounded once. -/
def mul? (x y : Binary64) : Option Binary64 :=
  let (n, d) := scaleRatio (x.significand * y.significand) 1 (x.exponent + y.exponent)
  ofRatio? (x.negative != y.negative) n d

/-- The exact quotient by a nonzero number, rounded once. -/
def div? (x y : Binary64) : Option Binary64 :=
  let (n, d) := scaleRatio x.significand y.significand (x.exponent - y.exponent)
  ofRatio? (x.negative != y.negative) n d

end Binary64

end AdExchange
