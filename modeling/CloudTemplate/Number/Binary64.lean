/-!
# Doubles as whole multiples of the smallest one

A double-precision number is held here by its exact value.  Every finite double is a whole
multiple of `2 ^ (-1074)`, the smallest positive one, so a finite magnitude is a natural number of
such *units* together with the fact that the format can hold it: the number of units stays below
the overflow bound, and it has at most 53 significant bits.  Comparison, wholeness and truncation
are then facts about integers, and nothing depends on the machine's own floating-point arithmetic.

* `Magnitude` is a finite absolute value, `Magnitude.ofRatio?` the nearest one to a quotient of
  natural numbers (a tie goes to the even neighbour), which is absent exactly on overflow.
* `Double` adds a sign, so that the two zeros stay apart.
* `Binary64` adds the infinities and the value that is not a number.
-/

namespace CloudTemplate

/-- The quotient `n / d` rounded to the nearest natural number; a tie goes to the even one. -/
def roundHalfEven (n d : Nat) : Nat :=
  let quotient := n / d
  let remainder := n % d
  if 2 * remainder < d then quotient
  else if d < 2 * remainder then quotient + 1
  else quotient + quotient % 2

/-! ## Magnitudes -/

/-- The number of units in the number one: a unit is `2 ^ (-1074)`. -/
def unitsPerOne : Nat := Nat.pow 2 1074

/-- The first number of units that overflows: `2 ^ 1024` is too large for the format. -/
def overflowUnits : Nat := Nat.pow 2 2098

/-- `units` is the exact value of a finite double: it is below the overflow bound, and everything
below its 53 leading bits is zero. -/
def Representable (units : Nat) : Prop :=
  units < overflowUnits ∧ Nat.pow 2 (units.log2 - 52) ∣ units

instance (units : Nat) : Decidable (Representable units) :=
  inferInstanceAs (Decidable (_ ∧ _))

/-- The absolute value of a finite double, in units of `2 ^ (-1074)`. -/
structure Magnitude where
  /-- The value divided by `2 ^ (-1074)`. -/
  units : Nat
  /-- The format holds this value exactly. -/
  representable : Representable units
deriving DecidableEq

namespace Magnitude

/-- Zero. -/
def zero : Magnitude := ⟨0, by decide +kernel⟩

instance : Inhabited Magnitude := ⟨zero⟩

/-- The magnitude with that many units, if the format has it. -/
def ofUnits? (units : Nat) : Option Magnitude :=
  if h : Representable units then some ⟨units, h⟩ else none

/-- The magnitude nearest to `n / d`, a tie going to the one with an even significand.  The
value of the last significant bit is read off the number of whole units in the quotient, and is the
unit itself for the quotients that are too small for 53 bits.  A quotient that rounds to the
overflow bound or beyond has none. -/
def ofRatio? (n d : Nat) : Option Magnitude :=
  let last := Nat.pow 2 ((n * unitsPerOne / d).log2 - 52)
  ofUnits? (roundHalfEven (n * unitsPerOne) (d * last) * last)

end Magnitude

/-! ## Signed values -/

/-- A finite double: a sign and a magnitude.  The two zeros differ in their sign. -/
structure Double where
  /-- Whether the sign is a minus. -/
  negative : Bool
  /-- The absolute value. -/
  magnitude : Magnitude
deriving DecidableEq, Inhabited

namespace Double

/-- The signed number of units, which is the same for both zeros. -/
def units (x : Double) : Int :=
  if x.negative then -(x.magnitude.units : Int) else x.magnitude.units

/-- Whether the value has no fractional part. -/
def isWhole (x : Double) : Bool := x.magnitude.units % unitsPerOne == 0

/-- The value without its fractional part. -/
def truncate (x : Double) : Int := x.units.tdiv unitsPerOne

end Double

/-- A double-precision number. -/
inductive Binary64 where
  /-- A finite value. -/
  | finite (value : Double)
  /-- An infinity, negative or positive. -/
  | infinite (negative : Bool)
  /-- The value that is not a number. -/
  | nan
deriving DecidableEq, Inhabited

namespace Binary64

/-- A sign put before a rounded magnitude, which is an infinity where the rounding overflowed. -/
def signed (negative : Bool) : Option Magnitude → Binary64
  | some magnitude => .finite ⟨negative, magnitude⟩
  | none => .infinite negative

/-- The double nearest to an integer. -/
def ofInt (n : Int) : Binary64 := signed (n < 0) (Magnitude.ofRatio? n.natAbs 1)

/-- Whether the number has no fractional part.  Neither infinity counts as whole. -/
def isWhole : Binary64 → Bool
  | .finite x => x.isWhole
  | _ => false

/-- Whether the number is smaller than an integer. -/
def isBelow : Binary64 → Int → Bool
  | .finite x, n => x.units < n * unitsPerOne
  | .infinite negative, _ => negative
  | .nan, _ => false

/-- Whether the number is larger than an integer. -/
def isAbove : Binary64 → Int → Bool
  | .finite x, n => n * unitsPerOne < x.units
  | .infinite negative, _ => !negative
  | .nan, _ => false

end Binary64

/-! ## The 64-bit integers -/

/-- The least signed 64-bit integer. -/
def leastInt64 : Int := -0x8000000000000000

/-- The greatest signed 64-bit integer. -/
def greatestInt64 : Int := 0x7FFFFFFFFFFFFFFF

/-- The greatest unsigned 64-bit integer. -/
def greatestNat64 : Nat := 0xFFFFFFFFFFFFFFFF

/-- The signed 64-bit integer nearest to `n`. -/
def clampInt64 (n : Int) : Int := max leastInt64 (min greatestInt64 n)

end CloudTemplate
