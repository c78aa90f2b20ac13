/-!
# Decimals that a double can hold

Formats that keep their numbers as doubles refuse a number that would come out infinite. There are
two ways to come by a double: the nearest one to the decimal (`Double.fits`), or the quick one, in
which a significand of 64 bits and a power of ten are each rounded and then multiplied
(`Double.productFits`). They part near the largest double. Both decisions are exact: a value is too
large when it is not below the midpoint between the largest finite double and the next power of two.
-/

namespace SimDepot.Double

/-- The midpoint between the largest finite double and `2 ^ 1024`; a tie goes up. -/
def bound : Nat := Nat.pow 2 1024 - Nat.pow 2 970

/-- The nearest double to `mantissa * 10 ^ exponent` is finite. -/
def fits (mantissa : Nat) (exponent : Int) : Bool :=
  let digits : Int := (Nat.toDigits 10 mantissa).length
  if mantissa = 0 || digits + exponent < 309 then true
  else if 309 < digits + exponent then false
  else if 0 ≤ exponent then mantissa * Nat.pow 10 exponent.toNat < bound
  else mantissa < bound * Nat.pow 10 exponent.natAbs

/-- The number with 53 significant bits that is nearest to `n`; a tie goes to the even one. -/
def nearest (n : Nat) : Nat :=
  let surplus := n.log2 - 52
  let unit := Nat.pow 2 surplus
  let (q, r) := (n / unit, n % unit)
  let up := unit < 2 * r || (unit == 2 * r && q % 2 == 1)
  (if up then q + 1 else q) * unit

/-- The product of the double nearest to the significand and the double nearest to the power of ten
is finite. A power beyond the largest double leaves only zero. -/
def productFits (significand : Nat) (exponent : Int) : Bool :=
  if significand = 0 || exponent < 0 then true
  else if 308 < exponent then false
  else nearest significand * nearest (Nat.pow 10 exponent.toNat) < bound

end SimDepot.Double
