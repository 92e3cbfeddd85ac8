import CloudTemplate.Number.Decimal

/-!
# The shortest decimal of a double

A double is written with the fewest digits that still round back to it.  For each number of digits,
from one upwards, the two neighbours of the value on the decimal grid with that many digits are
read back; the first grid on which one of them returns the value is taken, and where both do, the
nearer one.  An exact tie between the two is settled by the writer (`Tie`).

If no grid up to seventeen digits had such a neighbour, the exact expansion of the value would be
written, so the answer reads back in any case.
-/

namespace CloudTemplate

/-- The choice between two equally near decimals. -/
inductive Tie where
  /-- The one with an even last digit. -/
  | even
  /-- The larger one. -/
  | away
deriving DecidableEq

/-- The winner of a tie between `low` and `low + 1`. -/
def Tie.choose : Tie → Nat → Nat
  | .even, low => low + low % 2
  | .away, low => low + 1

namespace Magnitude

/-- The exact decimal expansion: a unit is `5 ^ 1074 * 10 ^ (-1074)`. -/
def expansion (m : Magnitude) : Decimal := ⟨m.units * Nat.pow 5 1074, -1074⟩

/-- The exponent of the leading decimal digit of a non-zero magnitude.  Multiplying by `10 ^ 400`
makes every one of them at least one, and the number of digits is then counted. -/
def leadingExponent (m : Magnitude) : Int :=
  ((Nat.toDigits 10 (m.units * Nat.pow 10 400 / unitsPerOne)).length : Int) - 401

/-- The neighbour of the value among the multiples of `10 ^ place` that reads back as the value. -/
def onGrid? (tie : Tie) (m : Magnitude) (place : Int) : Option Decimal :=
  let numerator := m.units * Nat.pow 10 (-place).toNat
  let denominator := unitsPerOne * Nat.pow 10 place.toNat
  let low := numerator / denominator
  let twice := 2 * (numerator % denominator)
  let readsBack (digits : Nat) : Bool := (Decimal.mk digits place).toMagnitude? == some m
  match readsBack low, readsBack (low + 1) with
  | true, true =>
      some ⟨if twice < denominator then low
            else if denominator < twice then low + 1
            else tie.choose low, place⟩
  | true, false => some ⟨low, place⟩
  | false, true => some ⟨low + 1, place⟩
  | false, false => none

/-- The shortest decimal that rounds to the magnitude, without trailing zeros. -/
def shortest (tie : Tie) (m : Magnitude) : Decimal :=
  if m.units = 0 then ⟨0, 0⟩
  else
    let leading := m.leadingExponent
    let found := (List.range 17).findSome? fun (further : Nat) => m.onGrid? tie (leading - further)
    (found.getD m.expansion).normalize

end Magnitude

end CloudTemplate
