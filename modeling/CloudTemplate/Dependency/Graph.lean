import CloudTemplate.Reference.Scan
import CloudTemplate.Template.Basic
import CloudTemplate.Validation.Finding

/-!
# The dependencies of a template

A resource depends on the resources that it lists and on those that its properties refer to.  The
dependency graph has the resources for its vertices, in the order of the template, and for each the
resources it depends on, each once, in the order in which they are met.

Names that lead nowhere make findings.  A name leads somewhere if it is that of a resource, is
supplied by the deployment, or is that of a parameter and used in a way that admits one.
-/

namespace CloudTemplate

/-- Vertices with the targets of their edges, in order. -/
abbrev DependencyGraph := Table (List String)

namespace DependencyGraph

/-- The targets of the edges from a vertex; a name that is no vertex has none. -/
def targets (g : DependencyGraph) (id : String) : List String := (g.get? id).getD []

end DependencyGraph

namespace Template

/-- Whether a reference leads somewhere. -/
def resolves (t : Template) (reference : Reference) : Bool :=
  t.resources.contains reference.target || isPseudoParameter reference.target ||
    (reference.mayNameParameter && t.parameters.contains reference.target)

end Template

namespace Resource

/-- The scan of each property, with the name of the property. -/
def scans (limit : Nat) (r : Resource) : List (String × Scan) :=
  r.properties.entries.map fun (property, value) => (property, scan limit value)

/-- All names that a resource uses: those it lists, then those its properties refer to. -/
def usedNames (limit : Nat) (r : Resource) : List String :=
  r.dependsOn ++ (r.scans limit).flatMap fun (_, s) => s.references.map Reference.target

end Resource

namespace Template

/-- The resources on which a resource depends. -/
def dependencies (t : Template) (limit : Nat) (r : Resource) : List String :=
  distinctNames ((r.usedNames limit).filter t.resources.contains)

/-- The dependency graph. -/
def dependencyGraph (t : Template) (limit : Nat) : DependencyGraph :=
  t.resources.map (t.dependencies limit)

/-- The findings about the names that one resource uses. -/
def nameFindings (t : Template) (limit : Nat) (id : String) (r : Resource) : List Finding :=
  let listed := (r.dependsOn.filter fun target => !t.resources.contains target).map
    (Finding.danglingDependency id)
  let referred := (r.scans limit).flatMap fun (property, s) =>
    (s.references.filter fun reference => !t.resolves reference).map
      (Finding.danglingReference id property)
  let cut := if (r.scans limit).any fun (_, s) => s.truncated then [Finding.referenceDepth id limit]
    else []
  listed ++ referred ++ cut

/-- The findings about the names that the resources use. -/
def resourceNameFindings (t : Template) (limit : Nat) : List Finding :=
  t.resources.entries.flatMap fun (id, r) => t.nameFindings limit id r

/-- The findings about the names that the outputs use. -/
def outputNameFindings (t : Template) (limit : Nat) : List Finding :=
  t.outputs.entries.flatMap fun (name, output) =>
    ((scan limit output.value).references.filter fun reference => !t.resolves reference).map
      (Finding.danglingOutput name)

end Template

end CloudTemplate
