import CloudTemplate.Proofs.Template.Resource

/-!
# What nodes use of a drawing

`Node.uses` lists, kind by kind, the ids that a node brings into its resource.  They are the
resources that must exist before it, each told once (`dependsOn_of_resource?`), and if no attribute
holds a reference then all that its properties mention is among them (`grounded_of_resource?`).
-/

namespace CloudTemplate

open PropertyValue Resource

namespace Node

/-- What a node uses of the rest of the drawing; a function that names no role uses the one
generated for it. -/
def uses (s : Surroundings) (roleId : String) (n : Node) : List String :=
  match n.kind with
  | .subnet | .securityGroup => (s.vpcOf? n).toList
  | .ec2 => (n.text? "subnetId").toList ++ n.ids "securityGroupIds"
  | .rds => n.ids "securityGroupIds"
  | .lambda => if n.needsRole then [roleId] else []
  | _ => []

/-- No reference occurs in any attribute. -/
def Silent (n : Node) : Prop := ∀ key value, n.attribute? key = some value → value.Silent

/-- The attributes of some nodes can be gone through one after the other. -/
lemma mem_values_of_attribute? {nodes : List Node} {n : Node} {key : String} {value : PropertyValue}
    (hn : n ∈ nodes) (h : n.attribute? key = some value) :
    value ∈ nodes.flatMap (·.attributes.values) :=
  List.mem_flatMap.mpr ⟨n, hn, List.mem_map_of_mem (Table.get?_eq_some_iff.mp h)⟩

end Node

variable {n : Node} {s : Surroundings} {roleId target : String}

/-! ## Dependencies -/

/-- What must exist before the resource of a node is what the node uses, each once. -/
lemma dependsOn_of_resource? {r : Resource} (h : n.resource? s roleId = some r) :
    r.dependsOn = distinctNames (n.uses s roleId) := by
  unfold Node.resource? at h
  unfold Node.uses
  cases hkind : n.kind <;> rw [hkind] at h <;> cases h
  case vpc => simp [vpcResource, distinctNames, pushAllNew]
  case subnet => simp [subnetResource, dependsOn_placedIn, distinctNames]
  case securityGroup => simp [securityGroupResource, dependsOn_placedIn, distinctNames]
  case ec2 =>
    simp [machineResource, dependsOn_inGroups, dependsOn_placedIn, distinctNames, pushAllNew]
  case s3 => simp [bucketResource, distinctNames, pushAllNew]
  case lambda =>
    simp [functionResource, dependsOn_underRole, distinctNames, Node.needsRole, hkind]
  case rds => simp [databaseResource, dependsOn_inGroups, distinctNames]
  case dynamodb => simp [tableResource, distinctNames, pushAllNew]
  case apiGateway => simp [restApiResource, distinctNames, pushAllNew]
  case sns => simp [topicResource, distinctNames, pushAllNew]
  case sqs => simp [queueResource, distinctNames, pushAllNew]
  case iamRole => simp [roleResource, distinctNames, pushAllNew]

lemma mem_dependsOn_iff {r : Resource} (h : n.resource? s roleId = some r) :
    target ∈ r.dependsOn ↔ target ∈ n.uses s roleId := by
  simp [dependsOn_of_resource? h, distinctNames, mem_pushAllNew]

/-! ## Mentions -/

section

variable (h : n.Silent)
include h

lemma grounded_vpcResource : (vpcResource n).Grounded :=
  ((((grounded_of _).set _ (silent_string _)).set _ (silent_bool _)).set _
    (silent_bool _)).set? _ (h _)

lemma grounded_subnetResource : (subnetResource s n).Grounded :=
  ((((grounded_of _).placedIn _ _).set _ (silent_string _)).set _ (silent_bool _)).set? _ (h _)

omit h in
lemma grounded_securityGroupResource : (securityGroupResource s n).Grounded := by
  refine (((grounded_of _).set _ (silent_string _)).placedIn _ _).set _ ?_
  simp [portRule, Node.textOr]

lemma grounded_machineResource : (machineResource n).Grounded := by
  refine (((((grounded_of _).set _ (silent_string _)).set _ (silent_string _)).set? _
    (h _)).placedIn _ _).inGroups _ ?_ _
  rintro id reference ⟨⟩
  rfl

lemma grounded_bucketResource : (bucketResource n).Grounded := by
  refine ((((grounded_of _).set? _ (h _)).set _ ?_).set _ ?_).setIf _ _ ?_ <;>
    simp (disch := decide) [silent_map_singleton_iff]

lemma grounded_databaseResource : (databaseResource n).Grounded := by
  refine (((((((((((grounded_of _).set _ (silent_string _)).set _ (silent_string _)).set _
    (silent_string _)).set _ (silent_bool _)).set _ (silent_ofInt _)).set _ (silent_string _)).set _
    (silent_bool _)).set? _ (h _)).set? _ (h _)).set? _ ?_).inGroups _ ?_ _
  · intro v hv
    obtain ⟨value, -, rfl⟩ := Option.map_eq_some_iff.mp hv
    exact silent_bool _
  · rintro id reference ⟨⟩
    rfl

lemma grounded_tableResource : (tableResource n).Grounded := by
  refine (((((grounded_of _).set? _ (h _)).set _ ?_).set _ ?_).setIf _ _ ?_).set _
    (silent_string _) <;> simp [tableKey, keyDefinition, Node.textOr]

omit h in
lemma silent_functionCode (n : Node) : (functionCode n).Silent := by
  unfold functionCode
  split <;> simp (disch := decide) [silent_map_singleton_iff]

lemma silent_functionEnvironment {v : PropertyValue} (hv : functionEnvironment? n = some v) :
    v.Silent := by
  unfold functionEnvironment? at hv
  split at hv
  · next entries hentries =>
    cases hv
    exact (silent_map_singleton_iff (by decide)).mpr (h _ _ hentries)
  · simp at hv

lemma grounded_functionResource : (functionResource roleId n).Grounded :=
  (((((((grounded_of _).set _ (silent_string _)).set _ (silent_string _)).set _
    (silent_ofInt _)).set _ (silent_ofInt _)).set _ (silent_functionCode n)).set? _
    fun _ => silent_functionEnvironment h).underRole _ _

omit h in
lemma silent_assumePolicy {service : PropertyValue} (hservice : service.Silent) :
    (assumePolicy service).Silent := by
  simp (disch := decide) [assumePolicy, silent_map_singleton_iff, hservice]

lemma grounded_roleResource : (roleResource n).Grounded :=
  (((grounded_of _).set _ (silent_assumePolicy (silent_string _))).set? _ (h _)).set? _ (h _)

lemma grounded_restApiResource : (restApiResource n).Grounded := by
  refine (((grounded_of _).set _ (silent_string _)).set? _ (h _)).set _ ?_
  simp (disch := decide) [silent_map_singleton_iff, Node.textOr]

lemma grounded_topicResource : (topicResource n).Grounded :=
  (((grounded_of _).set? _ (h _)).set? _ (h _)).set _ (silent_string _)

lemma grounded_queueResource : (queueResource n).Grounded :=
  (((((grounded_of _).set? _ (h _)).set _ (silent_ofInt _)).set _ (silent_ofInt _)).set _
    (silent_bool _)).setIf _ _ (silent_bool _)

/-- If no attribute holds a reference, all that the resource of a node mentions must exist
before it. -/
lemma grounded_of_resource? {r : Resource} (hr : n.resource? s roleId = some r) : r.Grounded := by
  unfold Node.resource? at hr
  cases hkind : n.kind <;> rw [hkind] at hr <;> cases hr
  case vpc => exact grounded_vpcResource h
  case subnet => exact grounded_subnetResource h
  case securityGroup => exact grounded_securityGroupResource
  case ec2 => exact grounded_machineResource h
  case s3 => exact grounded_bucketResource h
  case lambda => exact grounded_functionResource h
  case rds => exact grounded_databaseResource h
  case dynamodb => exact grounded_tableResource h
  case apiGateway => exact grounded_restApiResource h
  case sns => exact grounded_topicResource h
  case sqs => exact grounded_queueResource h
  case iamRole => exact grounded_roleResource h

omit h in
lemma grounded_executionRole : executionRole.Grounded := by
  refine ((grounded_of _).set _ (silent_assumePolicy (silent_string _))).set _ ?_
  simp

end

end CloudTemplate
