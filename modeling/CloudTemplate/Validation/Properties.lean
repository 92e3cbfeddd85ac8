import CloudTemplate.Catalog.Spec
import CloudTemplate.Validation.Finding

/-!
# Properties

A resource whose type is in the catalog is compared with what the catalog says of it: first the
properties that it must have, where null counts as absent, then each property that it has.
-/

namespace CloudTemplate

/-- Whether a resource has a property, null apart. -/
def Resource.has (r : Resource) (property : String) : Bool :=
  match r.property? property with
  | none | some .null => false
  | some _ => true

/-- The finding about a property that a resource has, if there is one. -/
def propertyFinding? (id : String) (r : Resource) (s : Spec) (property : String)
    (value : PropertyValue) : Option Finding :=
  if !s.knows property then some (.unknownProperty id property r.typeName)
  else (s.violation? property value).map (.invalidProperty id property)

/-- The findings about the properties of a resource. -/
def propertyFindings (id : String) (r : Resource) : List Finding :=
  match specOf? r.typeName with
  | none => [.unknownType id r.typeName]
  | some s =>
    (s.required.filter fun property => !r.has property).map (.missingProperty id) ++
      r.properties.entries.filterMap fun (property, value) => propertyFinding? id r s property value

end CloudTemplate
