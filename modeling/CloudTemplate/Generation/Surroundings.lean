import CloudTemplate.Distinct
import CloudTemplate.Graph.Basic

/-!
# What a node sees of its drawing

Nodes are compiled one after the other, and a node depends on the rest of the drawing in two ways: a
generated name must not be that of any node, and what is drawn without a network belongs to the only
one there is.
-/

namespace CloudTemplate

/-- What every node sees of the drawing. -/
structure Surroundings where
  /-- The ids of all nodes. -/
  ids : List String
  /-- The ids of the networks, each once. -/
  vpcIds : List String

namespace Surroundings

/-- The surroundings in a drawing. -/
def ofNodes (nodes : List Node) : Surroundings where
  ids := nodes.map Node.id
  vpcIds := distinctNames ((nodes.filter fun n => n.kind == .vpc).map Node.id)

/-- The network of a node: the one it names, or else the only one of the drawing.  Among several,
none is chosen. -/
def vpcOf? (s : Surroundings) (n : Node) : Option String :=
  match n.text? "vpcId" with
  | some id => some id
  | none =>
    match s.vpcIds with
    | [only] => some only
    | _ => none

end Surroundings

end CloudTemplate
