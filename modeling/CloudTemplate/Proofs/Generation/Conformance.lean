import CloudTemplate.Proofs.Catalog.Bounds
import CloudTemplate.Proofs.Template.Resource
import CloudTemplate.Validation.Properties

/-!
# Generated resources and the catalog

The generator writes properties that the catalog knows, and values that it accepts, except where it
copies what the drawing says.  `Node.Copies` lists these copies; everything else in the resource of
a node is beyond reproach, whatever its attributes (`follows_of_resource?`).  The properties that a
type requires are there, except the network of a subnet that has none (`has_of_resource?`).
-/

namespace CloudTemplate

open Resource

/-- The type of the resource of a kind. -/
def NodeKind.type? : NodeKind → Option ResourceType
  | .vpc => some .vpc
  | .subnet => some .subnet
  | .securityGroup => some .securityGroup
  | .ec2 => some .machine
  | .s3 => some .bucket
  | .lambda => some .function
  | .rds => some .database
  | .dynamodb => some .table
  | .apiGateway => some .restApi
  | .sns => some .topic
  | .sqs => some .queue
  | .iamRole => some .role
  | .unsupported => none

/-- The attributes that are copied into properties with rules if they are texts and not empty. -/
def NodeKind.copiedTexts : NodeKind → List (String × String)
  | .vpc | .subnet => [("cidrBlock", "CidrBlock")]
  | .ec2 => [("imageId", "ImageId"), ("instanceType", "InstanceType")]
  | .lambda => [("runtime", "Runtime"), ("handler", "Handler")]
  | .rds => [("instanceClass", "DBInstanceClass"), ("engine", "Engine")]
  | .dynamodb => [("billingMode", "BillingMode")]
  | .apiGateway => [("name", "Name")]
  | _ => []

/-- The attributes that are copied into properties with rules as they are. -/
def NodeKind.copiedValues : NodeKind → List (String × String)
  | .vpc => [("instanceTenancy", "InstanceTenancy")]
  | .s3 => [("bucketName", "BucketName")]
  | .sns => [("topicName", "TopicName")]
  | _ => []

/-- The ingress rules of a security group. -/
def ingressRules (n : Node) : PropertyValue :=
  .list ((ingressPorts n).map (portRule (n.textOr "ingressCidr" Defaults.ingressSource)))

/-- A property with a rule says what the drawing says. -/
inductive Node.Copies (n : Node) : String → PropertyValue → Prop
  | text {key property text} : (key, property) ∈ n.kind.copiedTexts → n.text? key = some text →
      Copies n property (.string text)
  | value {key property value} : (key, property) ∈ n.kind.copiedValues →
      n.attribute? key = some value → Copies n property value
  | description : n.kind = .securityGroup →
      Copies n "GroupDescription" (n.textOr "description" "")
  | ingress : n.kind = .securityGroup → Copies n "SecurityGroupIngress" (ingressRules n)
  /-- An API without a name is called by its id. -/
  | id : n.kind = .apiGateway → n.text? "name" = none → Copies n "Name" (.string n.id)

/-! ## Single properties -/

namespace Spec

/-- A property is known, and its value is accepted or copied from a node. -/
def Covers (s : Spec) (n : Node) (property : String) (value : PropertyValue) : Prop :=
  s.knows property = true ∧ (s.violation? property value = none ∨ n.Copies property value)

variable {s : Spec} {n : Node} {property key : String} {value : PropertyValue}

lemma violation?_of_rule {rule : Rule} (hrule : s.rule? property = some rule)
    (hvalue : rule.violation? value = none) : s.violation? property value = none := by
  rw [violation?, hrule]
  split
  · rfl
  · exact hvalue

lemma covers_of_rule {rule : Rule} (hknown : s.knows property = true)
    (hrule : s.rule? property = some rule) (hvalue : rule.violation? value = none) :
    s.Covers n property value :=
  ⟨hknown, .inl (violation?_of_rule hrule hvalue)⟩

/-- A property without a rule may have any value. -/
lemma covers_of_no_rule (hknown : s.knows property = true) (hrule : s.rule? property = none)
    (value : PropertyValue) : s.Covers n property value := by
  refine ⟨hknown, .inl ?_⟩
  rw [violation?, hrule]
  split <;> rfl

lemma covers_bool (hknown : s.knows property = true) (hrule : s.rule? property = some .boolean)
    (b : Bool) : s.Covers n property (.bool b) :=
  covers_of_rule hknown hrule rfl

lemma covers_bounded {label : String} {b : Bounds} {default : Int}
    (hknown : s.knows property = true) (hrule : s.rule? property = some (.bounded label b))
    (hb : b.Exact) : s.Covers n property (.ofInt (n.bounded key b default)) := by
  have hfault : b.fault? (.ofInt (n.bounded key b default)) = none :=
    hb.fault?_ofInt (hb.admits_clamp _)
  refine covers_of_rule hknown hrule ?_
  simp only [Rule.violation?, hfault, Option.map_none]

lemma covers_textOr {default : String} (hknown : s.knows property = true)
    (hcopied : (key, property) ∈ n.kind.copiedTexts)
    (hdefault : s.violation? property (.string default) = none) :
    s.Covers n property (n.textOr key default) := by
  refine ⟨hknown, ?_⟩
  unfold Node.textOr
  cases htext : n.text? key with
  | none => exact .inl hdefault
  | some text => exact .inr (.text hcopied htext)

lemma covers_attribute (hknown : s.knows property = true)
    (hcopied : (key, property) ∈ n.kind.copiedValues) (value : PropertyValue)
    (hvalue : n.attribute? key = some value) : s.Covers n property value :=
  ⟨hknown, .inr (.value hcopied hvalue)⟩

end Spec

/-! ## Resources -/

namespace Resource

/-- All properties are known, and their values are accepted or copied from a node. -/
def Follows (r : Resource) (s : Spec) (n : Node) : Prop :=
  ∀ property value, (property, value) ∈ r.properties.entries → s.Covers n property value

variable {r : Resource} {s : Spec} {n : Node} {name : String} {value : PropertyValue}

lemma follows_of (type : ResourceType) : (Resource.of type).Follows s n :=
  EachProperty.of type

lemma Follows.set (h : r.Follows s n) (hvalue : s.Covers n name value) :
    (r.set name value).Follows s n :=
  EachProperty.set h hvalue

lemma Follows.set? (h : r.Follows s n) {value : Option PropertyValue}
    (hvalue : ∀ v, value = some v → s.Covers n name v) : (r.set? name value).Follows s n :=
  EachProperty.set? h hvalue

lemma Follows.setIf (h : r.Follows s n) (condition : Bool) (hvalue : s.Covers n name value) :
    (r.setIf condition name value).Follows s n :=
  EachProperty.setIf h condition hvalue

lemma Follows.placedIn (h : r.Follows s n) (id : Option String)
    (hname : ∀ value, s.Covers n name value) : (r.placedIn name id).Follows s n :=
  EachProperty.placedIn h id fun id => hname (.ref id)

lemma Follows.inGroups (h : r.Follows s n) (named : String → PropertyValue) (groups : List String)
    (hname : ∀ value, s.Covers n name value) : (r.inGroups name named groups).Follows s n :=
  EachProperty.inGroups h (hname _)

lemma Follows.underRole (h : r.Follows s n) (roleId : String) (arn : Option String)
    (hrole : ∀ value, s.Covers n "Role" value) : (r.underRole roleId arn).Follows s n :=
  EachProperty.underRole h arn (fun arn => hrole (.string arn)) (hrole _)

end Resource

/-! ## The resources of nodes -/

section

open Spec ResourceType

variable {n : Node} {s : Surroundings} {roleId : String}

lemma follows_vpcResource (hkind : n.kind = .vpc) : (vpcResource n).Follows vpc.spec n :=
  ((((follows_of _).set (covers_textOr rfl (by simp [hkind, NodeKind.copiedTexts]) rfl)).set
    (covers_bool rfl rfl true)).set (covers_bool rfl rfl true)).set?
    (covers_attribute rfl (by simp [hkind, NodeKind.copiedValues]))

lemma follows_subnetResource (hkind : n.kind = .subnet) :
    (subnetResource s n).Follows subnet.spec n :=
  ((((follows_of _).placedIn _ (covers_of_no_rule rfl rfl)).set
    (covers_textOr rfl (by simp [hkind, NodeKind.copiedTexts]) rfl)).set
    (covers_bool rfl rfl _)).set? fun v _ => covers_of_no_rule rfl rfl v

lemma follows_securityGroupResource (hkind : n.kind = .securityGroup) :
    (securityGroupResource s n).Follows securityGroup.spec n :=
  (((follows_of _).set ⟨rfl, .inr (.description hkind)⟩).placedIn _
    (covers_of_no_rule rfl rfl)).set ⟨rfl, .inr (.ingress hkind)⟩

lemma follows_machineResource (hkind : n.kind = .ec2) :
    (machineResource n).Follows machine.spec n :=
  (((((follows_of _).set (covers_textOr rfl (by simp [hkind, NodeKind.copiedTexts]) rfl)).set
    (covers_textOr rfl (by simp [hkind, NodeKind.copiedTexts]) rfl)).set? fun v _ =>
    covers_of_no_rule rfl rfl v).placedIn _ (covers_of_no_rule rfl rfl)).inGroups _ _
    (covers_of_no_rule rfl rfl)

lemma follows_bucketResource (hkind : n.kind = .s3) : (bucketResource n).Follows bucket.spec n :=
  ((((follows_of _).set? (covers_attribute rfl (by simp [hkind, NodeKind.copiedValues]))).set
    (covers_of_no_rule rfl rfl _)).set (covers_of_no_rule rfl rfl _)).setIf _
    (covers_of_rule rfl rfl rfl)

lemma follows_functionResource (hkind : n.kind = .lambda) :
    (functionResource roleId n).Follows function.spec n := by
  have hcode : Rule.violation? .code (functionCode n) = none := by
    unfold functionCode
    split <;> rfl
  exact (((((((follows_of _).set
    (covers_textOr rfl (by simp [hkind, NodeKind.copiedTexts]) rfl)).set
    (covers_textOr rfl (by simp [hkind, NodeKind.copiedTexts]) rfl)).set
    (covers_bounded rfl rfl (by decide))).set (covers_bounded rfl rfl (by decide))).set
    (covers_of_rule rfl rfl hcode)).set? fun v _ => covers_of_no_rule rfl rfl v).underRole _ _
    (covers_of_no_rule rfl rfl)

lemma follows_databaseResource (hkind : n.kind = .rds) :
    (databaseResource n).Follows database.spec n := by
  have hexact : Bounds.databaseStorage.Exact := by decide
  have hstorage : Rule.violation? (.bounded "AllocatedStorage" .databaseStorage) (.string (toString
      (n.bounded "allocatedStorage" .databaseStorage Defaults.databaseStorage))) = none := by
    simp only [Rule.violation?, Node.bounded,
      hexact.fault?_string_toString (by decide) (hexact.admits_clamp _), Option.map_none]
  refine ((((((((((((follows_of _).set
    (covers_textOr rfl (by simp [hkind, NodeKind.copiedTexts]) rfl)).set
    (covers_textOr rfl (by simp [hkind, NodeKind.copiedTexts]) rfl)).set
    (covers_of_rule rfl rfl hstorage)).set (covers_bool rfl rfl _)).set
    (covers_bounded rfl rfl (by decide))).set (covers_of_no_rule rfl rfl _)).set
    (covers_of_no_rule rfl rfl _)).set? fun v _ => covers_of_no_rule rfl rfl v).set? fun v _ =>
    covers_of_no_rule rfl rfl v).set? ?_).inGroups _ _ (covers_of_no_rule rfl rfl))
  intro v hv
  obtain ⟨value, -, rfl⟩ := Option.map_eq_some_iff.mp hv
  exact covers_bool rfl rfl _

lemma follows_tableResource (hkind : n.kind = .dynamodb) :
    (tableResource n).Follows table.spec n := by
  refine (((((follows_of _).set? fun v _ => covers_of_no_rule rfl rfl v).set
    (covers_of_rule rfl rfl ?_)).set (covers_of_rule rfl rfl ?_)).setIf _
    (covers_of_no_rule rfl rfl _)).set
    (covers_textOr rfl (by simp [hkind, NodeKind.copiedTexts]) rfl)
  · cases n.text? "sortKey" <;> rfl
  · cases n.text? "sortKey" <;> rfl

lemma follows_restApiResource (hkind : n.kind = .apiGateway) :
    (restApiResource n).Follows restApi.spec n := by
  refine (((follows_of _).set ⟨rfl, .inr ?_⟩).set? fun v _ => covers_of_no_rule rfl rfl v).set
    (covers_of_no_rule rfl rfl _)
  unfold Node.textOr
  cases hname : n.text? "name" with
  | none => exact .id hkind hname
  | some name => exact .text (by simp [hkind, NodeKind.copiedTexts]) hname

lemma follows_topicResource (hkind : n.kind = .sns) : (topicResource n).Follows topic.spec n :=
  (((follows_of _).set? (covers_attribute rfl (by simp [hkind, NodeKind.copiedValues]))).set?
    fun v _ => covers_of_no_rule rfl rfl v).set (covers_of_no_rule rfl rfl _)

lemma follows_queueResource : (queueResource n).Follows queue.spec n :=
  (((((follows_of _).set? fun v _ => covers_of_no_rule rfl rfl v).set
    (covers_bounded rfl rfl (by decide))).set (covers_bounded rfl rfl (by decide))).set
    (covers_bool rfl rfl true)).setIf _ (covers_bool rfl rfl true)

lemma follows_roleResource : (roleResource n).Follows role.spec n :=
  (((follows_of _).set (covers_of_rule rfl rfl rfl)).set? fun v _ =>
    covers_of_no_rule rfl rfl v).set? fun v _ => covers_of_no_rule rfl rfl v

/-- Whatever the attributes of a node, its resource has known properties alone, and each value in it
is accepted or copied. -/
lemma follows_of_resource? {r : Resource} (hr : n.resource? s roleId = some r) {type : ResourceType}
    (htype : n.kind.type? = some type) : r.Follows type.spec n := by
  unfold Node.resource? at hr
  cases hkind : n.kind <;> rw [hkind] at hr htype <;> cases hr <;> cases htype
  case vpc => exact follows_vpcResource hkind
  case subnet => exact follows_subnetResource hkind
  case securityGroup => exact follows_securityGroupResource hkind
  case ec2 => exact follows_machineResource hkind
  case s3 => exact follows_bucketResource hkind
  case lambda => exact follows_functionResource hkind
  case rds => exact follows_databaseResource hkind
  case dynamodb => exact follows_tableResource hkind
  case apiGateway => exact follows_restApiResource hkind
  case sns => exact follows_topicResource hkind
  case sqs => exact follows_queueResource
  case iamRole => exact follows_roleResource

/-! ## Types and required properties -/

lemma typeName_of_resource? {r : Resource} (hr : n.resource? s roleId = some r) :
    ∃ type, n.kind.type? = some type ∧ r.typeName = type.name := by
  unfold Node.resource? at hr
  cases hkind : n.kind <;> rw [hkind] at hr <;> cases hr <;> refine ⟨_, rfl, ?_⟩
  case vpc => simp [vpcResource]
  case subnet => simp [subnetResource]
  case securityGroup => simp [securityGroupResource]
  case ec2 => simp [machineResource]
  case s3 => simp [bucketResource]
  case lambda => simp [functionResource]
  case rds => simp [databaseResource]
  case dynamodb => simp [tableResource]
  case apiGateway => simp [restApiResource]
  case sns => simp [topicResource]
  case sqs => simp [queueResource]
  case iamRole => simp [roleResource]

lemma has_of_property? {r : Resource} {property : String} {value : PropertyValue}
    (h : r.property? property = some value) (hne : value ≠ .null) : r.has property = true := by
  unfold Resource.has
  rw [h]
  cases value <;> first | rfl | exact absurd rfl hne

lemma has_subnetResource {id : String} (hvpc : s.vpcOf? n = some id) :
    ∀ property ∈ subnet.spec.required, (subnetResource s n).has property = true := by
  intro property hproperty
  obtain rfl := List.mem_singleton.mp hproperty
  have hid : (subnetResource s n).property? "VpcId" = some (.ref id) := by
    simp [subnetResource, property?_set, property?_set?, hvpc, placedIn, property?_dependOn]
  exact has_of_property? hid (by simp)

lemma has_securityGroupResource :
    ∀ property ∈ securityGroup.spec.required, (securityGroupResource s n).has property = true := by
  intro property hproperty
  obtain rfl := List.mem_singleton.mp hproperty
  have hdescription : (securityGroupResource s n).property? "GroupDescription" =
      some (n.textOr "description" "") := by
    simp [securityGroupResource, property?_set, property?_placedIn]
  exact has_of_property? hdescription (by simp [Node.textOr])

lemma has_machineResource :
    ∀ property ∈ machine.spec.required, (machineResource n).has property = true := by
  intro property hproperty
  obtain rfl := List.mem_singleton.mp hproperty
  have himage : (machineResource n).property? "ImageId" =
      some (n.textOr "imageId" Defaults.imageId) := by
    simp [machineResource, property?_set, property?_set?, property?_placedIn, property?_inGroups]
  exact has_of_property? himage (by simp [Node.textOr])

/-- A function always has code, and a role, be it its own or the generated one. -/
lemma has_functionResource :
    ∀ property ∈ function.spec.required, (functionResource roleId n).has property = true := by
  intro property hproperty
  obtain rfl | rfl := List.mem_pair.mp hproperty
  · have hcode : (functionResource roleId n).property? "Code" = some (functionCode n) := by
      simp [functionResource, property?_set, property?_set?, property?_underRole]
    refine has_of_property? hcode ?_
    unfold functionCode
    split <;> simp
  · have hrole : ∃ role, (functionResource roleId n).property? "Role" = some role ∧
        role ≠ .null := by
      cases harn : n.text? "roleArn" <;>
        simp [functionResource, underRole, harn, property?_set, property?_dependOn]
    obtain ⟨role, hproperty, hne⟩ := hrole
    exact has_of_property? hproperty hne

lemma has_databaseResource :
    ∀ property ∈ database.spec.required, (databaseResource n).has property = true := by
  intro property hproperty
  obtain rfl := List.mem_singleton.mp hproperty
  have hclass : (databaseResource n).property? "DBInstanceClass" =
      some (n.textOr "instanceClass" Defaults.databaseClass) := by
    simp [databaseResource, property?_set, property?_set?, property?_inGroups]
  exact has_of_property? hclass (by simp [Node.textOr])

lemma has_tableResource :
    ∀ property ∈ table.spec.required, (tableResource n).has property = true := by
  have hlist : ∀ property ∈ ["KeySchema", "AttributeDefinitions"],
      ∃ keys, (tableResource n).property? property = some (.list keys) := by
    simp [tableResource, property?_set, property?_setIf]
  intro property hproperty
  obtain ⟨keys, hkeys⟩ := hlist property hproperty
  exact has_of_property? hkeys (by simp)

lemma has_roleResource :
    ∀ property ∈ role.spec.required, (roleResource n).has property = true := by
  intro property hproperty
  obtain rfl := List.mem_singleton.mp hproperty
  have hpolicy : (roleResource n).property? "AssumeRolePolicyDocument" =
      some (assumePolicy (n.textOr "service" Defaults.roleService)) := by
    simp [roleResource, property?_set, property?_set?]
  exact has_of_property? hpolicy (by simp [assumePolicy])

/-- The resource of a node has what its type requires, a subnet without a network apart. -/
lemma has_of_resource? {r : Resource} (hr : n.resource? s roleId = some r) {type : ResourceType}
    (htype : n.kind.type? = some type) {property : String}
    (hrequired : property ∈ type.spec.required) :
    r.has property = true ∨ n.kind = .subnet ∧ s.vpcOf? n = none := by
  unfold Node.resource? at hr
  cases hkind : n.kind <;> rw [hkind] at hr htype <;> cases hr <;> cases htype
  case subnet =>
    cases hvpc : s.vpcOf? n with
    | none => exact .inr ⟨rfl, rfl⟩
    | some id => exact .inl (has_subnetResource hvpc property hrequired)
  case securityGroup => exact .inl (has_securityGroupResource property hrequired)
  case ec2 => exact .inl (has_machineResource property hrequired)
  case lambda => exact .inl (has_functionResource property hrequired)
  case rds => exact .inl (has_databaseResource property hrequired)
  case dynamodb => exact .inl (has_tableResource property hrequired)
  case iamRole => exact .inl (has_roleResource property hrequired)
  -- the other types require nothing
  all_goals exact absurd hrequired List.not_mem_nil

end

end CloudTemplate
