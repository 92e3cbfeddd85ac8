import CloudTemplate.Fingerprint
import CloudTemplate.Generation.Generate
import CloudTemplate.Validation.Validate

/-!
# Drafting and compiling

A graph is drafted while it is edited and compiled when it is done.  A draft has the template and
its report, whatever the report says.  Compiling accepts a graph only if the report has no errors,
and then adds the fingerprints by which the result is recognised.
-/

namespace CloudTemplate

/-- The version of the engine, which is part of the fingerprint of a graph. -/
def engineVersion : String := "1.0.0"

/-- A template with its report. -/
structure Draft where
  template : Template
  report : Report
deriving DecidableEq

/-- The draft of a graph. -/
def draft (p : Policy) (g : Graph) : Draft := ⟨g.template, validate p g.template⟩

/-- A template that was accepted. -/
structure Compiled where
  name : String
  engineVersion : String
  graphHash : String
  templateHash : String
  report : Report
  template : Template
deriving DecidableEq

/-- The errors for which a graph was rejected. -/
structure Rejection where
  errors : List Finding
deriving DecidableEq

/-- The report of a rejection. -/
def Rejection.message (r : Rejection) : String :=
  "Validation failed: " ++ "; ".intercalate (r.errors.map Finding.line)

/-- Compiles a graph. -/
def compile (p : Policy) (g : Graph) : Except Rejection Compiled :=
  let d := draft p g
  if d.report.valid then
    .ok ⟨g.name, engineVersion, g.fingerprint engineVersion, d.template.fingerprint, d.report,
      d.template⟩
  else .error ⟨d.report.errors⟩

/-- What marks one compilation among all others. -/
structure Stamp where
  id : String
  createdAt : String

/-- A compiled template as JSON. -/
def Compiled.toJson (stamp : Stamp) (c : Compiled) : Json :=
  .object [("id", .string stamp.id), ("name", .string c.name),
    ("engineVersion", .string c.engineVersion), ("createdAt", .string stamp.createdAt),
    ("graphHash", .string c.graphHash), ("templateHash", .string c.templateHash),
    ("validation", c.report.toJson), ("template", c.template.toJson)]

end CloudTemplate
