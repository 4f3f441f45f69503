/-!
# Rounding a quotient of naturals

Every rounding in this library, of decimals and of binary numbers, is one rounding of an exact
quotient.  There is one rule: to the nearest integer, and a half goes to the even neighbour.
-/

namespace AdExchange

namespace CorePower

/-- Where this is open powers are core's, also if monoids are known. -/
scoped instance corePow {α : Type} [NatPow α] : Pow α Nat := instPowNat

end CorePower

/-- The integer nearest to `num / den`; of two equally near ones the even one. -/
def divHalfEven (num den : Nat) : Nat :=
  let q := num / den
  let r := num % den
  if 2 * r < den then q
  else if den < 2 * r then q + 1
  else q + q % 2

end AdExchange
