import CloudTemplate.Graph.Document
import CloudTemplate.Json.Printer
import CloudTemplate.Template.Basic

/-!
# Templates as documents

The records by which templates are read and the JSON by which they are written.  In writing, empty
parameters, outputs and dependencies are left out; the other parts are always there.
-/

namespace CloudTemplate

/-- How a resource is read. -/
def Resource.record : Record Resource where
  title := "struct Resource"
  blank := .ofType ""
  fields := [
    ⟨"Type", true, fun r o => o.asText.map fun typeName => { r with typeName }⟩,
    ⟨"Properties", false, fun r o =>
      (o.asTable Outline.asPropertyValue).map fun properties => { r with properties }⟩,
    ⟨"DependsOn", false, fun r o => o.asNames.map fun dependsOn => { r with dependsOn }⟩]

/-- How an output is read. -/
def Output.record : Record Output where
  title := "struct Output"
  blank := ⟨.null, none⟩
  fields := [
    ⟨"Value", true, fun r o => o.asPropertyValue.map fun value => { r with value }⟩,
    ⟨"Description", false, fun r o =>
      (o.asOptional Outline.asText).map fun description => { r with description }⟩]

/-- How a template is read.  Every field may be absent. -/
def Template.record (form : Form) : Record Template where
  title := "struct Template"
  blank := ⟨"", "", .empty, .empty, .empty⟩
  fields := [
    ⟨"AWSTemplateFormatVersion", false, fun t o =>
      o.asText.map fun formatVersion => { t with formatVersion }⟩,
    ⟨"Description", false, fun t o => o.asText.map fun description => { t with description }⟩,
    ⟨"Parameters", false, fun t o =>
      (o.asTable Outline.asJson).map fun parameters => { t with parameters }⟩,
    ⟨"Resources", false, fun t o =>
      (o.asTable (Resource.record.read form)).map fun resources => { t with resources }⟩,
    ⟨"Outputs", false, fun t o =>
      (o.asTable (Output.record.read form)).map fun outputs => { t with outputs }⟩]

/-- The template given by a value. -/
def Template.ofJson (j : Json) : Except ReadError Template :=
  readValue ((Template.record .value).read .value) j

/-- The template given by a text. -/
def Template.ofText (text : String) : Except ReadError Template :=
  readText ((Template.record .text).read .text) text

/-- A field that is written only if a condition holds. -/
def fieldIf (condition : Bool) (name : String) (value : Json) : List (String × Json) :=
  if condition then [(name, value)] else []

/-- A resource as JSON. -/
def Resource.toJson (r : Resource) : Json :=
  .object ([("Type", .string r.typeName), ("Properties", propertiesToJson r.properties)] ++
    fieldIf (!r.dependsOn.isEmpty) "DependsOn" (.strings r.dependsOn))

/-- An output as JSON. -/
def Output.toJson (o : Output) : Json :=
  .object (("Value", o.value.toJson) ::
    match o.description with
    | some description => [("Description", .string description)]
    | none => [])

/-- A template as JSON. -/
def Template.toJson (t : Template) : Json :=
  .object ([("AWSTemplateFormatVersion", .string t.formatVersion),
      ("Description", .string t.description)] ++
    fieldIf (!t.parameters.isEmpty) "Parameters" (.object t.parameters.entries) ++
    [("Resources", .object (t.resources.map Resource.toJson).entries)] ++
    fieldIf (!t.outputs.isEmpty) "Outputs" (.object (t.outputs.map Output.toJson).entries))

/-- The text of a template on indented lines. -/
def Template.pretty (t : Template) : String := t.toJson.pretty

end CloudTemplate
