import CloudTemplate.Generation.Emission
import CloudTemplate.Generation.RoleName

/-!
# From a drawing to a template

Generation is total: every node of a supported kind puts its resource and its output into the
template, in the order of the drawing, and a function that names no role puts a generated one before
itself.  Where two nodes have one id, the later one replaces the earlier.  Edges say nothing that a
template holds.
-/

namespace CloudTemplate

/-- The id for a role generated for a node.  It is neither that of a node nor of a resource. -/
def roleIdFor (s : Surroundings) (t : Template) (n : Node) : String :=
  freeRoleId (s.ids ++ t.resources.keys) n.id

/-- Adds a node to a template. -/
def addNode (s : Surroundings) (t : Template) (n : Node) : Template :=
  let roleId := roleIdFor s t n
  let t := if n.needsRole then t.putResource roleId executionRole else t
  let t := match n.resource? s roleId with
    | some resource => t.putResource n.id resource
    | none => t
  match n.output? with
  | some (name, output) => t.putOutput name output
  | none => t

/-- The description of a template where the drawing has none. -/
def defaultDescription (name : String) : String := "Infrastructure template for " ++ name

/-- The template of a list of nodes. -/
def generate (nodes : List Node) (_edges : List Edge) (name : String)
    (description : Option String) : Template :=
  nodes.foldl (addNode (.ofNodes nodes))
    (.withDescription (description.getD (defaultDescription name)))

/-- The template of a graph. -/
def Graph.template (g : Graph) : Template := generate g.nodes g.edges g.name g.description

end CloudTemplate
