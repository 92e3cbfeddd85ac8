import CloudTemplate.Number.Layout
import CloudTemplate.Pipeline

/-!
# Stamps

A compiled template is marked with an identifier made of random bytes and with the moment of its
compilation in universal time.
-/

namespace CloudTemplate

/-- A natural number with zeros in front up to a width. -/
def padNumber (width n : Nat) : List Char :=
  let ds := Layout.digits n
  List.replicate (width - ds.length) '0' ++ ds

/-- A byte as two hexadecimal digits. -/
def hexByte (b : UInt8) : List Char :=
  [Nat.digitChar (b.toNat / 16), Nat.digitChar (b.toNat % 16)]

/-- The identifier made of sixteen random bytes.  Six of its bits say that it is a random one. -/
def randomId (bytes : List UInt8) : String :=
  let marked := bytes.zipIdx.map fun (b, i) =>
    if i = 6 then (b &&& 0x0F) ||| 0x40 else if i = 8 then (b &&& 0x3F) ||| 0x80 else b
  let digits := marked.flatMap hexByte
  let part (start length : Nat) : List Char := (digits.drop start).take length
  String.ofList (part 0 8 ++ '-' :: part 8 4 ++ '-' :: part 12 4 ++ '-' :: part 16 4 ++
    '-' :: part 20 12)

/-- The year, month and day of a number of days since the first of January 1970.  Years are counted
from March, so that the leap day is the last of its year, and in eras of 400 years, all alike. -/
def civilDate (days : Nat) : Nat × Nat × Nat :=
  let shifted := days + 719468
  let era := shifted / 146097
  let dayOfEra := shifted % 146097
  let yearOfEra := (dayOfEra - dayOfEra / 1460 + dayOfEra / 36524 - dayOfEra / 146096) / 365
  let dayOfYear := dayOfEra - (365 * yearOfEra + yearOfEra / 4 - yearOfEra / 100)
  let shiftedMonth := (5 * dayOfYear + 2) / 153
  let day := dayOfYear - (153 * shiftedMonth + 2) / 5 + 1
  let month := if shiftedMonth < 10 then shiftedMonth + 3 else shiftedMonth - 9
  let year := yearOfEra + era * 400 + if month ≤ 2 then 1 else 0
  (year, month, day)

/-- A moment, in nanoseconds since the start of 1970, as date and time. -/
def momentText (nanoseconds : Nat) : String :=
  let seconds := nanoseconds / 1000000000
  let (year, month, day) := civilDate (seconds / 86400)
  let time := seconds % 86400
  String.ofList (padNumber 4 year ++ '-' :: padNumber 2 month ++ '-' :: padNumber 2 day ++
    'T' :: padNumber 2 (time / 3600) ++ ':' :: padNumber 2 (time / 60 % 60) ++
    ':' :: padNumber 2 (time % 60) ++ '.' :: padNumber 9 (nanoseconds % 1000000000) ++ ['Z'])

/-- The stamp of sixteen random bytes and a moment. -/
def Stamp.make (bytes : List UInt8) (nanoseconds : Nat) : Stamp :=
  ⟨randomId bytes, momentText nanoseconds⟩

end CloudTemplate
