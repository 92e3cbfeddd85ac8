import CloudTemplate.Document.Decode

/-!
# Policies

A policy is the caller's part in a validation: which warnings are of no interest, whether good
practice is looked at, and how deep references and dependencies are followed.
-/

namespace CloudTemplate

/-- The caller's wishes for a validation. -/
structure Policy where
  /-- The codes of warnings that are dropped.  Errors are never dropped. -/
  suppress : List String := []
  /-- Whether good practice is looked at. -/
  bestPractices : Bool := true
  /-- How deep references are looked for inside a value. -/
  maxReferenceDepth : Nat := 64
  /-- How many resources a chain of dependencies may have. -/
  maxDependencyDepth : Nat := 1024
deriving DecidableEq, Inhabited

namespace Policy

/-- How a policy is read.  Every field may be absent. -/
def record : Record Policy where
  title := "struct ValidatorConfig"
  blank := {}
  fields := [
    ⟨"suppress", false, fun p o =>
      (o.asList Outline.asText).map fun suppress => { p with suppress }⟩,
    ⟨"bestPractices", false, fun p o =>
      o.asBool.map fun bestPractices => { p with bestPractices }⟩,
    ⟨"maxReferenceDepth", false, fun p o =>
      o.asCount.map fun maxReferenceDepth => { p with maxReferenceDepth }⟩,
    ⟨"maxDependencyDepth", false, fun p o =>
      o.asCount.map fun maxDependencyDepth => { p with maxDependencyDepth }⟩]

/-- The policy given by a value. -/
def ofJson (j : Json) : Except ReadError Policy := readValue (record.read .value) j

/-- The policy given by a text. -/
def ofText (text : String) : Except ReadError Policy := readText (record.read .text) text

/-- A policy as JSON. -/
def toJson (p : Policy) : Json :=
  .object [("suppress", .strings p.suppress), ("bestPractices", .bool p.bestPractices),
    ("maxReferenceDepth", .ofNat p.maxReferenceDepth),
    ("maxDependencyDepth", .ofNat p.maxDependencyDepth)]

end Policy

end CloudTemplate
