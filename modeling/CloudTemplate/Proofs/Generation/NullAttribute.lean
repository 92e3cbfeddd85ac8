import CloudTemplate.Proofs.Generation.Latest
import CloudTemplate.Proofs.Template.Resource

/-!
# Attributes that are null

An editor may send null for a field that was cleared.  Most attributes are read as a text, a flag, a
number or names, and none of these readings tells a null from absence.  Some are only looked up:
they are copied into a property as they are, or a default stands in for an absent one
(`NodeKind.rawAttributes`).  There a null counts as a value.  It is copied, it makes a database span
one zone by decision, and it switches its encryption off.

So removing a null attribute leaves the template unchanged exactly if it is none of these, or if the
resource of the node is replaced later on in any case (`generate_without_null_iff`).
-/

namespace CloudTemplate

open Resource

/-! ## Attributes that are looked up as they are -/

/-- An attribute of which a property shows whether it is there. -/
structure RawAttribute where
  key : String
  /-- The property that shows it. -/
  property : String
  /-- What the property is, if any, for the attribute. -/
  shows : Option PropertyValue → Option PropertyValue

/-- An attribute that is copied into a property. -/
def RawAttribute.copied (key property : String) : RawAttribute := ⟨key, property, id⟩

/-- The attributes of a kind that are looked up as they are. -/
def NodeKind.rawAttributes : NodeKind → List RawAttribute
  | .vpc => [.copied "instanceTenancy" "InstanceTenancy"]
  | .subnet => [.copied "availabilityZone" "AvailabilityZone"]
  | .ec2 => [.copied "keyName" "KeyName"]
  | .s3 => [.copied "bucketName" "BucketName"]
  | .rds => [.copied "engineVersion" "EngineVersion", .copied "dbName" "DBName",
    ⟨"storageEncrypted", "StorageEncrypted", fun v =>
      some (.bool ((v.map PropertyValue.isTruthy).getD true))⟩,
    ⟨"multiAz", "MultiAZ", Option.map fun v => .bool v.isTruthy⟩]
  | .dynamodb => [.copied "tableName" "TableName"]
  | .apiGateway => [.copied "description" "Description"]
  | .sns => [.copied "topicName" "TopicName", .copied "displayName" "DisplayName"]
  | .sqs => [.copied "queueName" "QueueName"]
  | .iamRole => [.copied "managedPolicyArns" "ManagedPolicyArns", .copied "roleName" "RoleName"]
  | .securityGroup | .lambda | .unsupported => []

/-- A property that shows an attribute tells a null from absence. -/
lemma RawAttribute.shows_null_ne {kind : NodeKind} :
    ∀ a ∈ kind.rawAttributes, a.shows (some .null) ≠ a.shows none := by
  cases kind <;> decide

namespace Node

/-- A node without one of its attributes. -/
def without (n : Node) (key : String) : Node := { n with attributes := n.attributes.erase key }

variable {n : Node} {key : String} {s : Surroundings} {roleId : String} {r : Resource}

/-- The property of a resource shows the attribute of its node. -/
lemma property?_of_mem_rawAttributes (hr : n.resource? s roleId = some r) :
    ∀ a ∈ n.kind.rawAttributes, r.property? a.property = a.shows (n.attribute? a.key) := by
  unfold resource? at hr
  cases hkind : n.kind <;> rw [hkind] at hr
  case securityGroup | lambda | unsupported => exact fun _ h => absurd h List.not_mem_nil
  all_goals
    obtain rfl := Option.some.inj hr
    simp only [NodeKind.rawAttributes, RawAttribute.copied, List.forall_mem_cons]
  case vpc => simp [vpcResource, property?_set, property?_set?]
  case subnet => simp [subnetResource, property?_set, property?_set?, property?_placedIn]
  case ec2 =>
    simp [machineResource, property?_set, property?_set?, property?_placedIn, property?_inGroups]
  case s3 => simp [bucketResource, property?_set, property?_set?, property?_setIf]
  case rds =>
    cases hencrypted : n.attribute? "storageEncrypted" <;>
      simp [databaseResource, property?_set, property?_set?, property?_inGroups, hencrypted]
  case dynamodb => simp [tableResource, property?_set, property?_set?, property?_setIf]
  case apiGateway => simp [restApiResource, property?_set, property?_set?]
  case sns => simp [topicResource, property?_set, property?_set?]
  case sqs => simp [queueResource, property?_set, property?_set?, property?_setIf]
  case iamRole => simp [roleResource, property?_set, property?_set?]

/-! ## Readings that do not tell a null from absence -/

@[simp]
lemma id_without (n : Node) (key : String) : (n.without key).id = n.id := rfl

@[simp]
lemma kind_without (n : Node) (key : String) : (n.without key).kind = n.kind := rfl

lemma attribute?_without (n : Node) (key other : String) :
    (n.without key).attribute? other = if other = key then none else n.attribute? other :=
  Table.get?_erase n.attributes key other

variable (hnull : n.attribute? key = some .null)
include hnull

/-- Where a lookup tells that the attribute is removed, it was null before. -/
lemma attribute?_without_cases (other : String) :
    (n.without key).attribute? other = n.attribute? other ∨
      (n.without key).attribute? other = none ∧ n.attribute? other = some .null := by
  rw [attribute?_without]
  split
  · next hother => exact .inr ⟨rfl, hother ▸ hnull⟩
  · exact .inl rfl

lemma text?_without (other : String) : (n.without key).text? other = n.text? other := by
  rcases attribute?_without_cases hnull other with hsame | ⟨hnone, hnull⟩
  · rw [text?, text?, hsame]
  · rw [text?, text?, hnone, hnull]

lemma flag_without (other : String) : (n.without key).flag other = n.flag other := by
  rcases attribute?_without_cases hnull other with hsame | ⟨hnone, hnull⟩
  · rw [flag, flag, hsame]
  · rw [flag, flag, hnone, hnull]
    rfl

lemma number?_without (other : String) : (n.without key).number? other = n.number? other := by
  rcases attribute?_without_cases hnull other with hsame | ⟨hnone, hnull⟩
  · rw [number?, number?, hsame]
  · rw [number?, number?, hnone, hnull]
    rfl

lemma ids_without (other : String) : (n.without key).ids other = n.ids other := by
  rcases attribute?_without_cases hnull other with hsame | ⟨hnone, hnull⟩
  · rw [ids, ids, hsame]
  · rw [ids, ids, hnone, hnull]

lemma textOr_without (other default : String) :
    (n.without key).textOr other default = n.textOr other default := by
  rw [textOr, textOr, text?_without hnull]

lemma bounded_without (other : String) (bounds : Bounds) (default : Int) :
    (n.without key).bounded other bounds default = n.bounded other bounds default := by
  rw [bounded, bounded, number?_without hnull]

lemma ingressPorts_without : ingressPorts (n.without key) = ingressPorts n := by
  rcases attribute?_without_cases hnull "ingressPorts" with hsame | ⟨hnone, hnull⟩
  · rw [ingressPorts, ingressPorts, hsame]
  · rw [ingressPorts, ingressPorts, hnone, hnull]
    rfl

lemma functionEnvironment?_without :
    functionEnvironment? (n.without key) = functionEnvironment? n := by
  rcases attribute?_without_cases hnull "environment" with hsame | ⟨hnone, hnull⟩
  · rw [functionEnvironment?, functionEnvironment?, hsame]
  · rw [functionEnvironment?, functionEnvironment?, hnone, hnull]

lemma functionCode_without : functionCode (n.without key) = functionCode n := by
  simp only [functionCode, text?_without hnull]

lemma vpcOf?_without : s.vpcOf? (n.without key) = s.vpcOf? n := by
  simp only [Surroundings.vpcOf?, text?_without hnull]

lemma needsRole_without : (n.without key).needsRole = n.needsRole := by
  rw [needsRole, needsRole, text?_without hnull, kind_without]

/-- The resource of a node does not miss a null, unless it is one of those looked up as they are. -/
lemma resource?_without (h : key ∉ n.kind.rawAttributes.map RawAttribute.key) :
    (n.without key).resource? s roleId = n.resource? s roleId := by
  -- All other readings take a null for absence, and so do not miss it.
  have hlookup : ∀ other ∈ n.kind.rawAttributes.map RawAttribute.key,
      (n.without key).attribute? other = n.attribute? other := by
    intro other hother
    rw [attribute?_without, if_neg (ne_of_mem_of_not_mem hother h)]
  unfold resource?
  rw [kind_without]
  cases hkind : n.kind <;> rw [hkind] at hlookup <;>
    simp only [NodeKind.rawAttributes, RawAttribute.copied, List.map_cons, List.map_nil,
      List.forall_mem_cons, Option.some.injEq] at hlookup ⊢
  case vpc => simp only [vpcResource, textOr_without hnull, hlookup]
  case subnet =>
    simp only [subnetResource, textOr_without hnull, flag_without hnull, vpcOf?_without hnull,
      hlookup]
  case securityGroup =>
    simp only [securityGroupResource, textOr_without hnull, vpcOf?_without hnull,
      ingressPorts_without hnull]
  case ec2 =>
    simp only [machineResource, textOr_without hnull, text?_without hnull, ids_without hnull,
      hlookup]
  case s3 => simp only [bucketResource, flag_without hnull, hlookup]
  case lambda =>
    simp only [functionResource, textOr_without hnull, bounded_without hnull,
      functionCode_without hnull, functionEnvironment?_without hnull, text?_without hnull]
  case rds =>
    simp only [databaseResource, textOr_without hnull, bounded_without hnull, ids_without hnull,
      hlookup]
  case dynamodb =>
    simp only [tableResource, textOr_without hnull, text?_without hnull, bounded_without hnull,
      hlookup]
  case apiGateway => simp only [restApiResource, textOr_without hnull, id_without, hlookup]
  case sns => simp only [topicResource, hlookup]
  case sqs => simp only [queueResource, bounded_without hnull, flag_without hnull, hlookup]
  case iamRole => simp only [roleResource, textOr_without hnull, hlookup]

end Node

/-! ## Templates -/

section Templates

variable (before after : List Node) (n : Node) (key : String) (edges : List Edge) (name : String)
  (description : Option String)

lemma ofNodes_without : Surroundings.ofNodes (before ++ n.without key :: after) =
    .ofNodes (before ++ n :: after) := by
  unfold Surroundings.ofNodes
  cases hvpc : n.kind == .vpc <;> simp [hvpc]

variable {n key} (hnull : n.attribute? key = some .null)
include hnull

lemma agreeBut_addNode_without (s : Surroundings) (t : Template) :
    (addNode s t n).AgreeBut n.id (addNode s t (n.without key)) :=
  agreeBut_addNode (m := n) (n := n.without key) rfl rfl (Node.needsRole_without hnull).symm

/-- Only the resource under the id of the node may miss a null. -/
lemma agreeBut_generate_without :
    (generate (before ++ n :: after) edges name description).AgreeBut n.id
      (generate (before ++ n.without key :: after) edges name description) := by
  obtain ⟨t, ht⟩ := exists_generate_eq before after n edges name description
  rw [ht n rfl, ht _ (ofNodes_without ..)]
  exact (agreeBut_addNode_without hnull _ t).foldl after

lemma generate_without_of_replaced (h : ∃ m ∈ after, m.kind ≠ .unsupported ∧ m.id = n.id) :
    generate (before ++ n.without key :: after) edges name description =
      generate (before ++ n :: after) edges name description := by
  obtain ⟨t, ht⟩ := exists_generate_eq before after n edges name description
  rw [ht n rfl, ht _ (ofNodes_without ..)]
  exact ((agreeBut_addNode_without hnull _ t).foldl_eq h).symm

lemma generate_without_of_not_mem (h : key ∉ n.kind.rawAttributes.map RawAttribute.key) :
    generate (before ++ n.without key :: after) edges name description =
      generate (before ++ n :: after) edges name description := by
  have hadd (s : Surroundings) (t : Template) : addNode s t (n.without key) = addNode s t n := by
    unfold addNode
    rw [Node.needsRole_without hnull]
    simp only [Node.resource?_without hnull h]
    rfl
  obtain ⟨t, ht⟩ := exists_generate_eq before after n edges name description
  rw [ht n rfl, ht _ (ofNodes_without ..), hadd]

/-- The resource of the node shows whether the attribute is null or not there. -/
lemma exists_resources_without {a : RawAttribute} (ha : a ∈ n.kind.rawAttributes)
    (hkey : a.key = key) (hlast : ∀ m ∈ after, m.kind ≠ .unsupported → m.id ≠ n.id) : ∃ r r',
      (generate (before ++ n :: after) edges name description).resources.get? n.id = some r ∧
      (generate (before ++ n.without key :: after) edges name description).resources.get? n.id =
        some r' ∧
      r.property? a.property = a.shows (some .null) ∧ r'.property? a.property = a.shows none ∧
      a.shows (some .null) ≠ a.shows none := by
  have hkind : n.kind ≠ .unsupported := by
    intro hkind
    rw [hkind] at ha
    exact List.not_mem_nil ha
  obtain ⟨_, r, hr, hget⟩ :=
    exists_get?_generate_of_last before after n hkind hlast edges name description
  obtain ⟨_, r', hr', hget'⟩ :=
    exists_get?_generate_of_last before after (n.without key) hkind hlast edges name description
  refine ⟨r, r', hget, hget', ?_, ?_, RawAttribute.shows_null_ne a ha⟩
  · rw [Node.property?_of_mem_rawAttributes hr a ha, hkey, hnull]
  · rw [Node.property?_of_mem_rawAttributes hr' a ha, Node.attribute?_without, if_pos hkey]

end Templates

/-- Removing a null attribute changes the resource of its node at most.  It leaves the template
unchanged exactly if the attribute is none of those that are looked up as they are, or if the
resource of the node is replaced by that of a later one.  Otherwise the property that shows the
attribute is another one. -/
theorem generate_without_null_iff (before after : List Node) (n : Node) (key : String)
    (hnull : n.attribute? key = some .null) (edges : List Edge) (name : String)
    (description : Option String) :
    (generate (before ++ n :: after) edges name description).AgreeBut n.id
      (generate (before ++ n.without key :: after) edges name description) ∧
    (generate (before ++ n.without key :: after) edges name description =
        generate (before ++ n :: after) edges name description ↔
      key ∉ n.kind.rawAttributes.map RawAttribute.key ∨
        ∃ m ∈ after, m.kind ≠ .unsupported ∧ m.id = n.id) ∧
    ∀ a ∈ n.kind.rawAttributes, a.key = key →
      (∀ m ∈ after, m.kind ≠ .unsupported → m.id ≠ n.id) → ∃ r r',
        (generate (before ++ n :: after) edges name description).resources.get? n.id = some r ∧
        (generate (before ++ n.without key :: after) edges name description).resources.get? n.id =
          some r' ∧
        r.property? a.property = a.shows (some .null) ∧ r'.property? a.property = a.shows none ∧
        a.shows (some .null) ≠ a.shows none := by
  refine ⟨agreeBut_generate_without before after edges name description hnull, ⟨?_, ?_⟩,
    fun a => exists_resources_without before after edges name description hnull⟩
  · intro hsame
    by_contra hboth
    push Not at hboth
    obtain ⟨hmem, hlast⟩ := hboth
    obtain ⟨a, ha, hkey⟩ := List.mem_map.mp hmem
    obtain ⟨r, r', hr, hr', hnulled, habsent, hne⟩ :=
      exists_resources_without before after edges name description hnull ha hkey hlast
    -- One resource would show both that the attribute is null and that it is absent.
    rw [hsame, hr] at hr'
    obtain rfl := Option.some.inj hr'
    exact hne (hnulled.symm.trans habsent)
  · rintro (hunread | hreplaced)
    · exact generate_without_of_not_mem before after edges name description hnull hunread
    · exact generate_without_of_replaced before after edges name description hnull hreplaced

/-- A database whose storage and encryption were cleared in the editor. -/
def clearedDatabase : Node :=
  ⟨"Db", .rds, (Table.empty.insert "allocatedStorage" .null).insert "storageEncrypted" .null⟩

/-- The database is as it would be without the null for its storage.  The one for its encryption
switches the encryption off. -/
theorem generate_without_null_iff_clearedDatabase :
    clearedDatabase.attribute? "allocatedStorage" = some .null ∧
      clearedDatabase.attribute? "storageEncrypted" = some .null ∧
      generate [clearedDatabase.without "allocatedStorage"] [] "Shop" none =
        generate [clearedDatabase] [] "Shop" none ∧
      ∃ r r', (generate [clearedDatabase] [] "Shop" none).resources.get? "Db" = some r ∧
        (generate [clearedDatabase.without "storageEncrypted"] [] "Shop" none).resources.get? "Db" =
          some r' ∧
        r.property? "StorageEncrypted" = some (.bool false) ∧
        r'.property? "StorageEncrypted" = some (.bool true) := by
  have hstorage : clearedDatabase.attribute? "allocatedStorage" = some .null := by decide
  have hencrypted : clearedDatabase.attribute? "storageEncrypted" = some .null := by decide
  obtain ⟨-, hsame, -⟩ :=
    generate_without_null_iff [] [] clearedDatabase "allocatedStorage" hstorage [] "Shop" none
  obtain ⟨-, -, hshown⟩ :=
    generate_without_null_iff [] [] clearedDatabase "storageEncrypted" hencrypted [] "Shop" none
  obtain ⟨r, r', hr, hr', hnulled, habsent, -⟩ :=
    hshown ⟨"storageEncrypted", "StorageEncrypted", fun v =>
      some (.bool ((v.map PropertyValue.isTruthy).getD true))⟩ (by simp [clearedDatabase,
        NodeKind.rawAttributes]) rfl (by simp)
  exact ⟨hstorage, hencrypted, hsame.mpr (.inl (by decide)), r, r', hr, hr', hnulled, habsent⟩

/-- Removing a null attribute is not always without effect. -/
theorem generate_without_null_ne_clearedDatabase :
    clearedDatabase.attribute? "storageEncrypted" = some .null ∧
      generate [clearedDatabase.without "storageEncrypted"] [] "Shop" none ≠
        generate [clearedDatabase] [] "Shop" none ∧
      ((generate [clearedDatabase] [] "Shop" none).resources.get? "Db").bind
        (·.property? "StorageEncrypted") = some (.bool false) := by
  have hon : ((generate [clearedDatabase.without "storageEncrypted"] [] "Shop"
      none).resources.get? "Db").bind (·.property? "StorageEncrypted") = some (.bool true) := by
    decide +kernel
  have hoff : ((generate [clearedDatabase] [] "Shop" none).resources.get? "Db").bind
      (·.property? "StorageEncrypted") = some (.bool false) := by
    decide +kernel
  refine ⟨by decide, fun hsame => ?_, hoff⟩
  rw [hsame, hoff] at hon
  exact absurd hon (by decide)

end CloudTemplate
