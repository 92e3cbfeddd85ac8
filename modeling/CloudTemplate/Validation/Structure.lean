import CloudTemplate.Validation.Finding

/-!
# Structure

What can be said of a template without knowing the types of its resources: its format version, the
length of its description, whether it has resources, and the spelling and length of their ids.
-/

namespace CloudTemplate

/-- Whether a text may be the id of a resource: a letter, and then letters and digits. -/
def isLogicalId (id : String) : Bool := isLogicalIdShape id.toList

/-- The findings about the id of a resource. -/
def idFindings (id : String) : List Finding :=
  (if isLogicalId id then [] else [.invalidLogicalId id]) ++
    (if logicalIdLimit < id.utf8ByteSize then [.longLogicalId id] else [])

/-- The findings about the structure of a template. -/
def Template.structureFindings (t : Template) : List Finding :=
  (if t.formatVersion = CloudTemplate.formatVersion then []
    else [.formatVersion t.formatVersion]) ++
  (if descriptionLimit < t.description.utf8ByteSize then
    [.longDescription t.description.utf8ByteSize] else []) ++
  (if t.resources.isEmpty then [.noResources] else []) ++
  t.resources.keys.flatMap idFindings

end CloudTemplate
