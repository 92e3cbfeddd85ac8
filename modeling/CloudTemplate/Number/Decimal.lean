import CloudTemplate.Number.Binary64

/-!
# Decimals

A decimal is a natural number times a power of ten.  It stands between the written forms of a
number and its double: a numeral is read into a decimal, the decimal is rounded once, and a double
is written through the shortest decimal that rounds back to it (`Number/Shortest`).
-/

namespace CloudTemplate

/-- The non-negative number `digits * 10 ^ exponent`. -/
structure Decimal where
  /-- The digits, read as one natural number. -/
  digits : Nat
  /-- The power of ten that multiplies them. -/
  exponent : Int
deriving DecidableEq, Inhabited

namespace Decimal

/-- The same number without trailing zeros among its digits. -/
def normalize (d : Decimal) : Decimal :=
  if 0 < d.digits ∧ d.digits % 10 = 0 then normalize ⟨d.digits / 10, d.exponent + 1⟩ else d
termination_by d.digits
decreasing_by omega

/-- The magnitude nearest to a decimal, absent on overflow.  Two cases are decided before any power
of ten is computed, so that an exponent of any size costs nothing: from `10 ^ 310` on every
non-zero decimal overflows, and `digits < 2 ^ (log2 digits + 1)` puts every decimal with an exponent
below `-(log2 digits + 1) - 400` under half a unit. -/
def toMagnitude? (d : Decimal) : Option Magnitude :=
  if d.digits = 0 then some Magnitude.zero
  else if 309 < d.exponent then none
  else if d.exponent < -((d.digits.log2 : Int) + 1) - 400 then some Magnitude.zero
  else Magnitude.ofRatio? (d.digits * Nat.pow 10 d.exponent.toNat) (Nat.pow 10 (-d.exponent).toNat)

end Decimal

end CloudTemplate
