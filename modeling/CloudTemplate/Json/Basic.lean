import CloudTemplate.Number.Layout
import CloudTemplate.Table

/-!
# JSON values

Numbers keep the distinction that their spelling makes: an integer literal that fits 64 bits is a
whole number, signed or unsigned, and every other literal is a finite double.  Objects are lists of
entries in order of appearance; a reader never produces two entries with one name.
-/

namespace CloudTemplate

/-- A JSON number. -/
inductive Number where
  /-- An integer that fits a signed or an unsigned 64-bit integer. -/
  | whole (value : Int) (fits : leastInt64 ≤ value ∧ value ≤ greatestNat64)
  /-- A finite double. -/
  | real (value : Double)
deriving DecidableEq

namespace Number

/-- The whole number nearest to `n` among the signed 64-bit integers. -/
def ofInt (n : Int) : Number :=
  .whole (clampInt64 n) (by unfold clampInt64 leastInt64 greatestInt64 greatestNat64; omega)

/-- The natural number nearest to `n` among the unsigned 64-bit integers. -/
def ofNat (n : Nat) : Number :=
  .whole (min n greatestNat64 : Nat) (by unfold leastInt64; omega)

/-- The double nearest to a number. -/
def toBinary64 : Number → Binary64
  | .whole n _ => Binary64.ofInt n
  | .real x => .finite x

/-- The number as a signed 64-bit integer: its whole part, brought into range.  A whole number
beyond the signed range would pass through a double, which is beyond it as well. -/
def toInt64 : Number → Int
  | .whole n _ => clampInt64 n
  | .real x => clampInt64 x.truncate

/-- The text of an integer. -/
def intText (n : Int) : List Char :=
  if n < 0 then '-' :: Layout.digits n.natAbs else Layout.digits n.natAbs

/-- The text of a number in a document. -/
def text : Number → List Char
  | .whole n _ => intText n
  | .real x => Layout.json.write x

end Number

/-- A JSON value. -/
inductive Json where
  | null
  | bool (value : Bool)
  | number (value : Number)
  | string (value : String)
  | array (items : List Json)
  | object (entries : List (String × Json))
deriving Inhabited

namespace Json

/-! ## Equality -/

mutual

/-- Whether two values are the same, entries in the same order. -/
def same : Json → Json → Bool
  | .null, .null => true
  | .bool a, .bool b => a == b
  | .number a, .number b => a == b
  | .string a, .string b => a == b
  | .array a, .array b => sameItems a b
  | .object a, .object b => sameEntries a b
  | _, _ => false

/-- Whether two lists of values are the same. -/
def sameItems : List Json → List Json → Bool
  | [], [] => true
  | a :: as, b :: bs => a.same b && sameItems as bs
  | _, _ => false

/-- Whether two lists of entries are the same. -/
def sameEntries : List (String × Json) → List (String × Json) → Bool
  | [], [] => true
  | (k, a) :: as, (l, b) :: bs => k == l && a.same b && sameEntries as bs
  | _, _ => false

end

mutual

theorem same_iff_eq : ∀ a b : Json, a.same b = true ↔ a = b
  | .null, b | .bool _, b | .number _, b | .string _, b => by cases b <;> simp [same]
  | .array as, b => by cases b <;> simp [same, sameItems_iff_eq as]
  | .object as, b => by cases b <;> simp [same, sameEntries_iff_eq as]

theorem sameItems_iff_eq : ∀ as bs : List Json, sameItems as bs = true ↔ as = bs
  | [], bs => by cases bs <;> simp [sameItems]
  | a :: as, bs => by cases bs <;> simp [sameItems, same_iff_eq a, sameItems_iff_eq as]

theorem sameEntries_iff_eq : ∀ as bs : List (String × Json), sameEntries as bs = true ↔ as = bs
  | [], bs => by cases bs <;> simp [sameEntries]
  | (k, a) :: as, bs => by
    rcases bs with _ | ⟨⟨l, b⟩, bs⟩
    · simp [sameEntries]
    · simp [sameEntries, same_iff_eq a, sameEntries_iff_eq as, and_assoc]

end

instance : DecidableEq Json := fun a b => decidable_of_iff _ (same_iff_eq a b)

/-! ## Builders -/

/-- A whole number. -/
def ofInt (n : Int) : Json := .number (.ofInt n)

/-- A natural number. -/
def ofNat (n : Nat) : Json := .number (.ofNat n)

/-- A list of texts. -/
def strings (texts : List String) : Json := .array (texts.map .string)

end Json

end CloudTemplate
