import CloudTemplate.Document.Decode
import CloudTemplate.Graph.Basic

/-!
# Graphs as documents

The records by which nodes, edges and graphs are read, and the JSON by which they are written.  A
graph is written with all its fields, a missing description as null.
-/

namespace CloudTemplate

/-- A part as a property value. -/
def Outline.asPropertyValue (o : Outline) : Except Failure PropertyValue :=
  o.asJson.map PropertyValue.ofJson

/-- A table of property values as JSON. -/
def propertiesToJson (properties : Table PropertyValue) : Json :=
  .object (PropertyValue.toEntries properties.entries)

/-- How a node is read. -/
def Node.record (form : Form) : Record Node where
  title := "struct ArchitectureNode"
  blank := ⟨"", .unsupported, .empty⟩
  fields := [
    ⟨"id", true, fun n o => o.asText.map fun id => { n with id }⟩,
    ⟨"resourceType", true, fun n o =>
      (o.asTag form).map fun tag => { n with kind := .ofTag tag }⟩,
    ⟨"attributes", false, fun n o =>
      (o.asTable Outline.asPropertyValue).map fun attributes => { n with attributes }⟩]

/-- How an edge is read. -/
def Edge.record : Record Edge where
  title := "struct ArchitectureEdge"
  blank := ⟨"", ""⟩
  fields := [
    ⟨"source", true, fun e o => o.asText.map fun source => { e with source }⟩,
    ⟨"target", true, fun e o => o.asText.map fun target => { e with target }⟩]

/-- How a graph is read. -/
def Graph.record (form : Form) : Record Graph where
  title := "struct ArchitectureGraph"
  blank := ⟨"", none, [], []⟩
  fields := [
    ⟨"name", true, fun g o => o.asText.map fun name => { g with name }⟩,
    ⟨"description", false, fun g o =>
      (o.asOptional Outline.asText).map fun description => { g with description }⟩,
    ⟨"nodes", false, fun g o =>
      (o.asList ((Node.record form).read form)).map fun nodes => { g with nodes }⟩,
    ⟨"edges", false, fun g o =>
      (o.asList (Edge.record.read form)).map fun edges => { g with edges }⟩]

/-- The node given by a value. -/
def Node.ofJson (j : Json) : Except ReadError Node := readValue ((Node.record .value).read .value) j

/-- The graph given by a value. -/
def Graph.ofJson (j : Json) : Except ReadError Graph :=
  readValue ((Graph.record .value).read .value) j

/-- The graph given by a text. -/
def Graph.ofText (text : String) : Except ReadError Graph :=
  readText ((Graph.record .text).read .text) text

/-- A node as JSON. -/
def Node.toJson (n : Node) : Json :=
  .object [("id", .string n.id), ("resourceType", .string n.kind.tag),
    ("attributes", propertiesToJson n.attributes)]

/-- An edge as JSON. -/
def Edge.toJson (e : Edge) : Json :=
  .object [("source", .string e.source), ("target", .string e.target)]

/-- A graph as JSON. -/
def Graph.toJson (g : Graph) : Json :=
  .object [("name", .string g.name),
    ("description", match g.description with
      | some description => .string description
      | none => .null),
    ("nodes", .array (g.nodes.map Node.toJson)),
    ("edges", .array (g.edges.map Edge.toJson))]

end CloudTemplate
