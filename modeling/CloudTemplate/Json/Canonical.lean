import CloudTemplate.Json.Printer

/-!
# Canonical JSON

Two documents that differ in the order of their entries alone have one fingerprint.  Before it is
written for that purpose, a value is brought into canonical form: the entries of every object stand
in the order of their names by code point, which is also the order of their UTF-8 bytes.
-/

namespace CloudTemplate

/-- Entries in the order of their names. -/
def Entries.sorted {α : Type} (entries : Entries α) : Entries α :=
  entries.mergeSort fun a b => decide (a.1 ≤ b.1)

namespace Json

mutual

/-- The same value with the entries of every object in order. -/
def canonical : Json → Json
  | .array items => .array (canonicalItems items)
  | .object entries => .object (Entries.sorted (canonicalEntries entries))
  | j => j

/-- Each value in canonical form. -/
def canonicalItems : List Json → List Json
  | [] => []
  | item :: more => item.canonical :: canonicalItems more

/-- Each entry with its value in canonical form, in the old order. -/
def canonicalEntries : List (String × Json) → List (String × Json)
  | [] => []
  | (key, value) :: more => (key, value.canonical) :: canonicalEntries more

end

/-- The text of the canonical form, without blanks. -/
def canonicalText (j : Json) : String := j.canonical.compact

end Json

end CloudTemplate
