import CloudTemplate.Distinct
import CloudTemplate.Value.Basic

/-!
# Templates

A template lists the resources of a deployment, each with its type, its properties and the resources
that must exist before it, and the outputs that the deployment shows.  Parameters are passed through
untouched; only their names matter, as targets of references.
-/

namespace CloudTemplate

/-- The one format version of templates. -/
def formatVersion : String := "2010-09-09"

/-- A resource of a deployment. -/
structure Resource where
  typeName : String
  properties : Table PropertyValue := .empty
  /-- The resources that must exist before. -/
  dependsOn : List String := []
deriving DecidableEq, Inhabited

namespace Resource

/-- A resource without properties. -/
def ofType (typeName : String) : Resource := ⟨typeName, .empty, []⟩

/-- The property with a name. -/
def property? (r : Resource) (name : String) : Option PropertyValue := r.properties.get? name

/-- Sets a property. -/
def set (r : Resource) (name : String) (value : PropertyValue) : Resource :=
  { r with properties := r.properties.insert name value }

/-- Sets a property if there is a value for it. -/
def set? (r : Resource) (name : String) (value : Option PropertyValue) : Resource :=
  match value with
  | some value => r.set name value
  | none => r

/-- Adds a resource that must exist before, once. -/
def dependOn (r : Resource) (id : String) : Resource :=
  { r with dependsOn := pushNew r.dependsOn id }

/-- Adds several resources that must exist before, each once. -/
def dependOnAll (r : Resource) (ids : List String) : Resource :=
  { r with dependsOn := pushAllNew r.dependsOn ids }

end Resource

/-- A value that a deployment shows. -/
structure Output where
  value : PropertyValue
  description : Option String := none
deriving DecidableEq, Inhabited

/-- A template. -/
structure Template where
  formatVersion : String
  description : String
  parameters : Table Json := .empty
  resources : Table Resource := .empty
  outputs : Table Output := .empty
deriving DecidableEq, Inhabited

namespace Template

/-- A template of the current format without any content. -/
def withDescription (description : String) : Template :=
  ⟨CloudTemplate.formatVersion, description, .empty, .empty, .empty⟩

/-- Puts a resource under an id. -/
def putResource (t : Template) (id : String) (resource : Resource) : Template :=
  { t with resources := t.resources.insert id resource }

/-- Puts an output under a name. -/
def putOutput (t : Template) (name : String) (output : Output) : Template :=
  { t with outputs := t.outputs.insert name output }

end Template

end CloudTemplate
