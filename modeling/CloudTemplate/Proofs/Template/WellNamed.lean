import CloudTemplate.Proofs.Value.Basic
import CloudTemplate.Template.Basic

/-!
# Well-named templates

An object names each of its values once.  Of the tables of a template this is part of their type;
of the maps inside a value, which are plain lists of entries, it is said by `Json.WellNamed` and
`PropertyValue.WellNamed`, and of all values of a template by `Template.WellNamed`.  Every template
that was read is well named.
-/

namespace CloudTemplate

/-- No map inside a property has a name twice. -/
def Resource.WellNamed (r : Resource) : Prop :=
  ∀ property value, (property, value) ∈ r.properties.entries → value.WellNamed

/-- No map inside a value of a template has a name twice. -/
structure Template.WellNamed (t : Template) : Prop where
  parameters : ∀ name value, (name, value) ∈ t.parameters.entries → value.WellNamed
  resources : ∀ id r, (id, r) ∈ t.resources.entries → r.WellNamed
  outputs : ∀ name output, (name, output) ∈ t.outputs.entries → output.value.WellNamed

end CloudTemplate
