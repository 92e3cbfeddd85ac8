import CloudTemplate.Catalog.ResourceType
import CloudTemplate.Validation.Finding

/-!
# Good practice

Some templates are valid and unwise: storage that is not encrypted, a database in one zone, a
function that may take long, a port that is open to everyone.  Each is a warning.  They are looked
for in every resource, whatever else is wrong with it.
-/

namespace CloudTemplate

/-- The time, in seconds, beyond which a function is better split. -/
def longTimeout : Int := 300

/-- The ports that a service on the web opens to everyone. -/
def webPorts : List Int := [80, 443]

/-- The sources that stand for the whole internet, with the names under which rules have them. -/
def openSources : List (String × String) := [("CidrIp", "0.0.0.0/0"), ("CidrIpv6", "::/0")]

/-- Whether a property turns something on.  What is known only at deployment is taken to do so. -/
def turnsOn (value : Option PropertyValue) : Bool :=
  match value with
  | some value => value.isIntrinsic || value.isTruthy
  | none => false

/-- How far a rule opens a group to the whole internet, if it does and not for the web alone. -/
def exposure? (rule : PropertyValue) : Option Exposure :=
  match openSources.find? fun (key, source) => (rule.get? key).bind (·.asText?) == some source with
  | none => none
  | some (_, source) =>
    let protocol := (ingressProtocol? rule).getD ""
    let first := (rule.get? "FromPort").bind (·.asInt64?)
    let last := ((rule.get? "ToPort").bind (·.asInt64?)).or first
    if protocol = "-1" ∨ protocol = "all" then some (.allPorts source)
    else match first, last with
      | none, _ => some (.allPorts source)
      | some _, none => none
      | some first, some last =>
        if first = last then
          if webPorts.contains first then none else some (.onePort source first)
        else some (.ports source first last)

/-- A finding if a condition holds. -/
def findingIf (condition : Bool) (finding : Finding) : List Finding :=
  if condition then [finding] else []

/-- The type of a rule that is a resource of its own. -/
def standaloneRuleType : String := "AWS::EC2::SecurityGroupIngress"

/-- What is unwise about a resource of a type in the catalog. -/
def practiceFindingsOf (id : String) (r : Resource) : ResourceType → List Finding
  | .bucket => findingIf (r.property? "BucketEncryption").isNone (.unencryptedBucket id)
  | .database =>
    findingIf (!turnsOn (r.property? "StorageEncrypted")) (.unencryptedDatabase id) ++
      findingIf (!turnsOn (r.property? "MultiAZ")) (.singleZoneDatabase id)
  | .function =>
    match (r.property? "Timeout").bind (·.asDouble?) with
    | some seconds => findingIf (seconds.isAbove longTimeout) (.longTimeout id seconds)
    | none => []
  | .securityGroup =>
    let rules := ((r.property? "SecurityGroupIngress").bind (·.asList?)).getD []
    (rules.filterMap exposure?).map (.openIngress id "SecurityGroupIngress")
  | _ => []

/-- What is unwise about a resource. -/
def practiceFindings (id : String) (r : Resource) : List Finding :=
  if r.typeName = standaloneRuleType then
    (exposure? (.map r.properties.entries)).toList.map (.openIngress id "CidrIp")
  else match ResourceType.ofName? r.typeName with
    | some type => practiceFindingsOf id r type
    | none => []

end CloudTemplate
