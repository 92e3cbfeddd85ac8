import CloudTemplate.Dependency.Cycles
import CloudTemplate.Template.Document
import CloudTemplate.Validation.BestPractices
import CloudTemplate.Validation.Policy
import CloudTemplate.Validation.Properties
import CloudTemplate.Validation.Structure

/-!
# Validation

A validation makes passes over a template and reports what they find, errors and warnings apart,
each in the order of the passes.  Errors alone decide whether the template is valid; a policy may
drop warnings and skip good practice, and touches nothing else.
-/

namespace CloudTemplate

/-- The passes of a validation. -/
inductive Pass where
  | structural
  | properties
  | dependencies
  | bestPractices
deriving DecidableEq

namespace Pass

/-- What a pass finds in a template. -/
def findings (p : Policy) (t : Template) : Pass → List Finding
  | .structural => t.structureFindings
  | .properties => t.resources.entries.flatMap fun (id, r) => propertyFindings id r
  | .dependencies =>
    t.resourceNameFindings p.maxReferenceDepth ++ t.outputNameFindings p.maxReferenceDepth ++
      t.cycleFindings p.maxReferenceDepth p.maxDependencyDepth
  | .bestPractices => t.resources.entries.flatMap fun (id, r) => practiceFindings id r

end Pass

/-- The passes that a policy asks for, in order. -/
def Policy.passes (p : Policy) : List Pass :=
  [.structural, .properties, .dependencies] ++ if p.bestPractices then [.bestPractices] else []

/-- Whether a policy keeps a finding. -/
def Policy.keeps (p : Policy) (f : Finding) : Bool :=
  f.isError || !p.suppress.contains f.code.text

/-- The result of a validation. -/
structure Report where
  errors : List Finding
  warnings : List Finding
deriving DecidableEq

namespace Report

/-- The report of a list of findings. -/
def ofFindings (findings : List Finding) : Report :=
  ⟨findings.filter Finding.isError, findings.filter fun f => !f.isError⟩

/-- Whether the template is valid. -/
def valid (r : Report) : Bool := r.errors.isEmpty

/-- All findings, the errors first. -/
def findings (r : Report) : List Finding := r.errors ++ r.warnings

/-- The findings on one line each. -/
def lines (r : Report) : List String := r.findings.map Finding.line

/-- A report as JSON. -/
def toJson (r : Report) : Json :=
  .object [("valid", .bool r.valid), ("errors", .array (r.errors.map Finding.toJson)),
    ("warnings", .array (r.warnings.map Finding.toJson))]

end Report

/-- The report of a template under a policy. -/
def validate (p : Policy) (t : Template) : Report :=
  .ofFindings ((p.passes.flatMap (Pass.findings p t)).filter p.keeps)

/-- The report of the text of a template.  A text that cannot be read is reported as such and not
looked at any further. -/
def validateText (p : Policy) (text : String) : Report :=
  match Template.ofText text with
  | .ok t => validate p t
  | .error e => .ofFindings [.unreadable e]

end CloudTemplate
