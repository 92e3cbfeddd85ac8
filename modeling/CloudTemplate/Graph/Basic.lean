import CloudTemplate.Value.Basic

/-!
# Architecture graphs

An editor draws an architecture as nodes with attributes and edges between them.  A `Graph` is such
a drawing with its name and description.  Attributes are free-form, and a node offers the readings
that a generator needs of them: a text that is not empty, a flag, a whole number, and one or many
names.
-/

namespace CloudTemplate

/-- The kinds of nodes that an editor can draw. -/
inductive NodeKind where
  | vpc
  | subnet
  | securityGroup
  | ec2
  | s3
  | lambda
  | rds
  | dynamodb
  | apiGateway
  | sns
  | sqs
  | iamRole
  /-- A kind for which there is no template. -/
  | unsupported
deriving DecidableEq, Inhabited

namespace NodeKind

/-- The kinds for which there is a template. -/
def supported : List NodeKind :=
  [.vpc, .subnet, .securityGroup, .ec2, .s3, .lambda, .rds, .dynamodb, .apiGateway, .sns, .sqs,
    .iamRole]

/-- The tag of a kind in documents. -/
def tag : NodeKind → String
  | .vpc => "vpc"
  | .subnet => "subnet"
  | .securityGroup => "security-group"
  | .ec2 => "ec2"
  | .s3 => "s3"
  | .lambda => "lambda"
  | .rds => "rds"
  | .dynamodb => "dynamodb"
  | .apiGateway => "api-gateway"
  | .sns => "sns"
  | .sqs => "sqs"
  | .iamRole => "iam-role"
  | .unsupported => "unsupported"

/-- The kind with a tag; an unknown tag stands for an unsupported kind. -/
def ofTag (tag : String) : NodeKind :=
  (supported.find? fun kind => kind.tag == tag).getD .unsupported

end NodeKind

/-- A drawn node. -/
structure Node where
  id : String
  kind : NodeKind
  attributes : Table PropertyValue := .empty
deriving DecidableEq, Inhabited

namespace Node

/-- The attribute with a name. -/
def attribute? (n : Node) (key : String) : Option PropertyValue := n.attributes.get? key

/-- An attribute that is a text and not empty. -/
def text? (n : Node) (key : String) : Option String :=
  match n.attribute? key with
  | some (.string value) => if value = "" then none else some value
  | _ => none

/-- An attribute as a flag; absence counts as no. -/
def flag (n : Node) (key : String) : Bool :=
  match n.attribute? key with
  | some value => value.isTruthy
  | none => false

/-- An attribute as a whole number. -/
def number? (n : Node) (key : String) : Option Int := (n.attribute? key).bind (·.asInt64?)

/-- An attribute that is one name or a list of names; what is no name in the list is passed over,
and so are empty names. -/
def ids (n : Node) (key : String) : List String :=
  match n.attribute? key with
  | some (.string id) => if id = "" then [] else [id]
  | some (.list items) => (items.filterMap PropertyValue.asText?).filter (· != "")
  | _ => []

end Node

/-- A drawn relationship between two nodes. -/
structure Edge where
  source : String
  target : String
deriving DecidableEq, Inhabited

/-- A drawing. -/
structure Graph where
  name : String
  description : Option String := none
  nodes : List Node := []
  edges : List Edge := []
deriving DecidableEq, Inhabited

end CloudTemplate
