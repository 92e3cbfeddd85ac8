import CloudTemplate.Number.Decimal
import CloudTemplate.Text.Ascii
import CloudTemplate.Text.Blank

/-!
# Numerals in text

A property may hold a number as text.  Such a text is read after its outer blanks are dropped, as a
double (`Binary64.ofText?`) or as a signed 64-bit integer (`int64OfText?`).  The two readings have
different grammars: the double admits a fraction, an exponent and the names of the infinities and of
the value that is not a number; the integer admits a sign and digits, and refuses what does not fit.
-/

namespace CloudTemplate

/-- The natural number written by a row of digits. -/
def digitsValue (ds : List Char) : Nat := ds.foldl (fun n d => 10 * n + (d.toNat - 48)) 0

/-- A leading sign, as whether it is a minus, and what follows it. -/
def takeSign : List Char → Bool × List Char
  | '-' :: rest => (true, rest)
  | '+' :: rest => (false, rest)
  | rest => (false, rest)

/-- The text of the exponent of a numeral: nothing, or a letter `e`, a sign or none, and digits. -/
def exponentOfText? : List Char → Option Int
  | [] => some 0
  | c :: rest =>
    let (negative, ds) := takeSign rest
    if (c == 'e' || c == 'E') && !ds.isEmpty && ds.all isDigit then
      some (if negative then -(digitsValue ds : Int) else digitsValue ds)
    else none

namespace Decimal

/-- A numeral without a sign: digits with at most one point among or around them, then an exponent
or none.  At least one digit stands before the exponent. -/
def ofText? (text : List Char) : Option Decimal :=
  let whole := text.takeWhile isDigit
  let rest := text.dropWhile isDigit
  let afterPoint := match rest with
    | '.' :: more => more
    | _ => []
  let fraction := afterPoint.takeWhile isDigit
  let tail := match rest with
    | '.' :: more => more.dropWhile isDigit
    | other => other
  if whole.isEmpty && fraction.isEmpty then none
  else (exponentOfText? tail).map fun exponent =>
    ⟨digitsValue (whole ++ fraction), exponent - fraction.length⟩

end Decimal

/-- The double written by a text without outer blanks. -/
def Binary64.ofText? (text : List Char) : Option Binary64 :=
  let (negative, rest) := takeSign text
  match Decimal.ofText? rest with
  | some d => some (signed negative d.toMagnitude?)
  | none =>
    let name := asciiLower (String.ofList rest)
    if name = "inf" || name = "infinity" then some (.infinite negative)
    else if name = "nan" then some .nan
    else none

/-- The signed 64-bit integer written by a text without outer blanks. -/
def int64OfText? (text : List Char) : Option Int :=
  let (negative, ds) := takeSign text
  if ds.isEmpty || !ds.all isDigit then none
  else
    let n : Int := if negative then -(digitsValue ds : Int) else digitsValue ds
    if leastInt64 ≤ n ∧ n ≤ greatestInt64 then some n else none

end CloudTemplate
