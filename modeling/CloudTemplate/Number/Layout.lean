import CloudTemplate.Number.Shortest

/-!
# How a double is laid out

Two texts show doubles: JSON documents and messages for people.  Both write the shortest digits;
they differ in the exponents that are written positionally, in the mark of a whole number, and in
the choice at a tie.  `Layout` records these decisions, `Layout.json` and `Layout.message` are the
two records, and `Layout.write` is the one writer.
-/

namespace CloudTemplate

/-- The decisions of a written form for doubles. -/
structure Layout where
  /-- Whether a leading digit with this exponent is written without an exponent. -/
  positional : Int → Bool
  /-- What follows the digits of a whole number that is written positionally. -/
  wholeMark : List Char
  /-- The choice between two shortest decimals that are equally near. -/
  tie : Tie

namespace Layout

/-- JSON numbers: positional for leading exponents from -5 up to 15, and a whole number keeps
`.0`, which tells it from an integer. -/
def json : Layout := ⟨fun exponent => -5 ≤ exponent && exponent < 16, ['.', '0'], .even⟩

/-- Numbers in messages: always positional, and a whole number looks like an integer. -/
def message : Layout := ⟨fun _ => true, [], .away⟩

/-- The digits of a natural number in base ten. -/
def digits (n : Nat) : List Char := Nat.toDigits 10 n

/-- A positional number whose leading digit has the given exponent. -/
def writePositional (layout : Layout) (ds : List Char) (leading : Int) : List Char :=
  if leading < 0 then
    '0' :: '.' :: (List.replicate (-leading - 1).toNat '0' ++ ds)
  else
    let before := leading.toNat + 1
    if ds.length ≤ before then ds ++ List.replicate (before - ds.length) '0' ++ layout.wholeMark
    else ds.take before ++ '.' :: ds.drop before

/-- A number with an exponent, whose sign is always written. -/
def writeScientific (ds : List Char) (leading : Int) : List Char :=
  let mantissa := match ds with
    | [] => []
    | [d] => [d]
    | d :: more => d :: '.' :: more
  mantissa ++ 'e' :: (if leading < 0 then '-' else '+') :: digits leading.natAbs

/-- A decimal without trailing zeros in a layout. -/
def writeDecimal (layout : Layout) (d : Decimal) : List Char :=
  let ds := digits d.digits
  let leading := d.exponent + ds.length - 1
  if layout.positional leading then layout.writePositional ds leading
  else writeScientific ds leading

/-- A finite double in a layout; the sign of zero is kept. -/
def write (layout : Layout) (x : Double) : List Char :=
  let text := layout.writeDecimal (x.magnitude.shortest layout.tie)
  if x.negative then '-' :: text else text

end Layout

/-- A double as messages show it. -/
def Binary64.display : Binary64 → String
  | .finite x => String.ofList (Layout.message.write x)
  | .infinite negative => if negative then "-inf" else "inf"
  | .nan => "NaN"

end CloudTemplate
