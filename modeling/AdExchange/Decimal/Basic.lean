import AdExchange.Number.Rounding

/-!
# Decimals of bounded size

A decimal is a sign, a mantissa below `2 ^ 96` and a scale from 0 to 28, and stands for
`± mantissa / 10 ^ scale`.  Several decimals stand for one number (`1.1` and `1.10`); they compare
as equal but are written differently.  A zero may have a sign, which no comparison sees; of all
arithmetic only a product of long mantissas that rounds to zero makes one.

Every operation is one rounding of its exact result: of all scales that the result may have, the
largest one that leaves room for the mantissa.  Where none does, the operation has no result.  A
quotient may have fewer places, down to those that it needs.

## Main definitions

* `Decimal` — the type; `Decimal.signed` is the mantissa with its sign.
* `a ≤ b`, `a < b` — comparison of the numbers that the decimals stand for.
* `Decimal.round?` — a quotient at the largest scale that fits.
* `Decimal.add?`, `Decimal.sub?`, `Decimal.mul?`, `Decimal.div?` — arithmetic, `none` on overflow.
* `Decimal.stripped` — the number with fewer zeros at the end of its places.
* `Decimal.floor`, `Decimal.roundPlaces` — the integer below, and a given number of places.
-/

namespace AdExchange

open scoped CorePower

/-- A signed decimal with a 96-bit mantissa and at most 28 decimal places. -/
structure Decimal where
  /-- Set for negative numbers and for minus zero. -/
  negative : Bool
  mantissa : Nat
  /-- The number of decimal places. -/
  scale : Nat
  mantissa_lt : mantissa < 2 ^ (96 : Nat)
  scale_le : scale ≤ 28
  deriving DecidableEq

namespace Decimal

/-- The decimal with exactly these parts, if they are in range. -/
def ofSignedParts? (negative : Bool) (mantissa scale : Nat) : Option Decimal :=
  if h : mantissa < 2 ^ (96 : Nat) ∧ scale ≤ 28 then some ⟨negative, mantissa, scale, h.1, h.2⟩
  else none

/-- The decimal with these parts, if they are in range.  A zero loses its sign. -/
def ofParts? (negative : Bool) (mantissa scale : Nat) : Option Decimal :=
  ofSignedParts? (negative && mantissa != 0) mantissa scale

/-- A decimal that is not negative, from a mantissa and a scale. -/
def ofNat (mantissa : Nat) (scale : Nat := 0)
    (hm : decide (mantissa < 2 ^ (96 : Nat)) := by exact Eq.refl true)
    (hs : decide (scale ≤ 28) := by exact Eq.refl true) : Decimal :=
  ⟨false, mantissa, scale, of_decide_eq_true hm, of_decide_eq_true hs⟩

def zero : Decimal := ofNat 0

def one : Decimal := ofNat 1

instance : Inhabited Decimal := ⟨zero⟩

def ofInt? (n : Int) : Option Decimal := ofParts? (decide (n < 0)) n.natAbs 0

/-- The mantissa with its sign. -/
def signed (d : Decimal) : Int := if d.negative then -d.mantissa else d.mantissa

def isZero (d : Decimal) : Bool := d.mantissa == 0

instance : LE Decimal := ⟨fun a b => a.signed * 10 ^ b.scale ≤ b.signed * 10 ^ a.scale⟩

instance : LT Decimal := ⟨fun a b => a.signed * 10 ^ b.scale < b.signed * 10 ^ a.scale⟩

instance (a b : Decimal) : Decidable (a ≤ b) :=
  inferInstanceAs (Decidable (a.signed * 10 ^ b.scale ≤ b.signed * 10 ^ a.scale))

instance (a b : Decimal) : Decidable (a < b) :=
  inferInstanceAs (Decidable (a.signed * 10 ^ b.scale < b.signed * 10 ^ a.scale))

theorem le_def (a b : Decimal) : a ≤ b ↔ a.signed * 10 ^ b.scale ≤ b.signed * 10 ^ a.scale :=
  Iff.rfl

theorem lt_def (a b : Decimal) : a < b ↔ a.signed * 10 ^ b.scale < b.signed * 10 ^ a.scale :=
  Iff.rfl

/-- The number without the sign of a zero. -/
def withoutZeroSign (d : Decimal) : Decimal := { d with negative := d.negative && !d.isZero }

/-- `± num / den` with the largest scale up to `places` at which the rounded mantissa fits; `none`
if it does not even fit as an integer.  What rounds to zero keeps its sign. -/
def roundSigned? (negative : Bool) (num den : Nat) : (places : Nat) → Option Decimal
  | 0 => ofSignedParts? negative (divHalfEven num den) 0
  | s + 1 =>
    match ofSignedParts? negative (divHalfEven (num * 10 ^ (s + 1)) den) (s + 1) with
    | some d => some d
    | none => roundSigned? negative num den s

/-- `± num / den` with the largest scale up to `places` at which the rounded mantissa fits; `none`
if it does not even fit as an integer.  What rounds to zero loses its sign. -/
def round? (negative : Bool) (num den places : Nat) : Option Decimal :=
  (roundSigned? negative num den places).map withoutZeroSign

/-- The integer `n / 10 ^ scale` as a decimal with at most that scale. -/
def roundInt? (n : Int) (scale : Nat) : Option Decimal :=
  round? (decide (n < 0)) n.natAbs (10 ^ scale) (min scale 28)

def neg (d : Decimal) : Decimal := { d with negative := !d.negative }

/-- The sum, `none` if it does not fit.  Adding zero changes nothing. -/
def add? (a b : Decimal) : Option Decimal :=
  if a.isZero then some b
  else if b.isZero then some a
  else
    let s := max a.scale b.scale
    roundInt? (a.signed * 10 ^ (s - a.scale) + b.signed * 10 ^ (s - b.scale)) s

/-- The difference, `none` if it does not fit. -/
def sub? (a b : Decimal) : Option Decimal :=
  if b.isZero then some (if a.isZero then b else a) else a.add? b.neg

/-- The mantissa fits in 32 bits. -/
def isShort (d : Decimal) : Bool := d.mantissa < 2 ^ (32 : Nat)

/-- The product, `none` if it does not fit.  A product that only rounds to zero keeps its sign,
unless both mantissas are short. -/
def mul? (a b : Decimal) : Option Decimal :=
  let scale := a.scale + b.scale
  let product :=
    roundSigned? (a.negative != b.negative) (a.mantissa * b.mantissa) (10 ^ scale) (min scale 28)
  if a.isZero || b.isZero then some zero
  else if a.isShort && b.isShort then product.map withoutZeroSign
  else product

/-- Drops `n` places if they are there and all of them are zeros. -/
def dropZeros (n : Nat) (d : Decimal) : Decimal :=
  if n ≤ d.scale ∧ d.mantissa % 10 ^ n = 0 then
    ⟨d.negative, d.mantissa / 10 ^ n, d.scale - n,
      Nat.lt_of_le_of_lt (Nat.div_le_self _ _) d.mantissa_lt,
      Nat.le_trans (Nat.sub_le _ _) d.scale_le⟩
  else d

/-- Drops eight zeros, which are only looked for where the last 32 bits of the mantissa are zero. -/
def dropEightZeros (d : Decimal) : Decimal :=
  if d.mantissa % 2 ^ (32 : Nat) = 0 then d.dropZeros 8 else d

/-- The same number with fewer zeros at the end of its places: as often as possible eight of them,
and then four, two and one. -/
def stripped (d : Decimal) : Decimal :=
  d.dropEightZeros.dropEightZeros.dropEightZeros.dropZeros 4 |>.dropZeros 2 |>.dropZeros 1

/-- The scale of a quotient with `9 * steps` places more than the dividend has over the divisor. -/
def steppedScale (a b : Decimal) (steps : Nat) : Int := (a.scale : Int) - b.scale + 9 * steps

/-- The first number of steps, up to six, after which a division leaves nothing and the quotient
has at most `places` places. -/
def exactSteps? (a b : Decimal) (places : Nat) : Option Nat :=
  (List.range' 1 6).find? fun steps =>
    a.mantissa * 10 ^ (9 * steps) % b.mantissa = 0 ∧ steppedScale a b steps ≤ places

/-- The quotient, `none` if the divisor is zero or the quotient does not fit.  Where the mantissas
divide without a remainder, the places of the divisor are taken from those of the dividend.  Else
the division goes on for nine places at a time until nothing is left or no place is free, and zeros
at the end are dropped. -/
def div? (a b : Decimal) : Option Decimal := do
  let negative := a.negative != b.negative
  if b.isZero then none
  else if a.isZero then some zero
  else if a.mantissa % b.mantissa = 0 then
    ofParts? negative (a.mantissa / b.mantissa * 10 ^ (b.scale - a.scale)) (a.scale - b.scale)
  else
    let full ← round? negative (a.mantissa * 10 ^ b.scale) (b.mantissa * 10 ^ a.scale) 28
    match exactSteps? a b full.scale with
    | none => some full.stripped
    | some steps =>
      let mantissa := a.mantissa * 10 ^ (9 * steps) / b.mantissa
      let scale := steppedScale a b steps
      (ofParts? negative (mantissa * 10 ^ (-scale).toNat) scale.toNat).map stripped

/-- The magnitude of the greatest integer that is not above the number. -/
def floorMagnitude (d : Decimal) : Nat :=
  if d.negative then (d.mantissa + (10 ^ d.scale - 1)) / 10 ^ d.scale
  else d.mantissa / 10 ^ d.scale

theorem floorMagnitude_le (d : Decimal) : d.floorMagnitude ≤ d.mantissa := by
  unfold floorMagnitude
  have hp : 0 < 10 ^ d.scale := Nat.pow_pos (by decide)
  split
  · refine Nat.le_of_lt_succ ((Nat.div_lt_iff_lt_mul hp).2 ?_)
    have : d.mantissa ≤ d.mantissa * 10 ^ d.scale := Nat.le_mul_of_pos_right _ hp
    rw [Nat.succ_mul]
    omega
  · exact Nat.div_le_self _ _

/-- The greatest integer that is not above the number. -/
def floor (d : Decimal) : Decimal :=
  ⟨d.negative && d.floorMagnitude != 0, d.floorMagnitude, 0,
    Nat.lt_of_le_of_lt d.floorMagnitude_le d.mantissa_lt, by decide⟩

/-- The number rounded to at most `places` decimal places; a half goes to the even neighbour. -/
def roundPlaces (d : Decimal) (places : Nat) : Decimal :=
  if d.scale ≤ places then d
  else (round? d.negative d.mantissa (10 ^ d.scale) places).getD d

end Decimal

end AdExchange
