import CloudTemplate.Proofs.Generation.Acceptance
import CloudTemplate.Proofs.Generation.Drawn

/-!
# What is found about generated resources

A drawing need not be coherent, and validation then has something to say about its template.  Of the
properties of resources, though, it can say only two things, and for both the drawing is to blame
(`Node.Blamed`): a value that was copied from the drawing breaks its rule, or a subnet has no
network to lie in.  Types and properties are always known, and what the generator makes up itself is
never refused (`propertyFindings_generate`).

Where the ids of the nodes are distinct, no resource is replaced by another, and a subnet lacks its
network exactly if the drawing names none and does not have a single one
(`vpcOf?_ofNodes_eq_none_iff`).
-/

namespace CloudTemplate

open Resource

/-- The properties with rules that hold what the generator makes up, and nothing copied. -/
def generatedProperties : List String :=
  ["Code", "MemorySize", "Timeout", "AllocatedStorage", "BackupRetentionPeriod",
    "StorageEncrypted", "MultiAZ", "MapPublicIpOnLaunch", "EnableDnsHostnames", "EnableDnsSupport",
    "VersioningConfiguration", "AssumeRolePolicyDocument", "KeySchema", "AttributeDefinitions",
    "VisibilityTimeout", "MessageRetentionPeriod", "FifoQueue", "SqsManagedSseEnabled"]

/-- A finding about the resource of a node that comes from the drawing. -/
inductive Node.Blamed (s : Surroundings) (n : Node) : Finding → Prop
  /-- There is no network for a subnet. -/
  | network : n.kind = .subnet → s.vpcOf? n = none → Blamed s n (.missingProperty n.id "VpcId")
  /-- A copied value breaks its rule. -/
  | copy {property value violation} : n.Copies property value →
      Blamed s n (.invalidProperty n.id property violation)

variable {s : Surroundings} {n : Node} {r : Resource} {roleId : String} {f : Finding}

lemma not_mem_generatedProperties {property : String} {value : PropertyValue}
    (h : n.Copies property value) : property ∉ generatedProperties := by
  have htexts : ∀ kind : NodeKind, ∀ copy ∈ kind.copiedTexts, copy.2 ∉ generatedProperties := by
    intro kind
    cases kind <;> decide
  have hvalues : ∀ kind : NodeKind, ∀ copy ∈ kind.copiedValues, copy.2 ∉ generatedProperties := by
    intro kind
    cases kind <;> decide
  cases h with
  | text hmem _ => exact htexts n.kind _ hmem
  | value hmem _ => exact hvalues n.kind _ hmem
  | description _ | ingress _ | id _ _ => decide

/-- For whatever is found about the resource of a node, the drawing is to blame. -/
lemma blamed_of_mem_propertyFindings (hr : n.resource? s roleId = some r)
    (hf : f ∈ propertyFindings n.id r) : n.Blamed s f := by
  obtain ⟨type, htype, hname⟩ := typeName_of_resource? hr
  have hspec : specOf? r.typeName = some type.spec := by rw [hname, specOf?_name]
  rcases (mem_propertyFindings_iff hspec).mp hf with
    ⟨property, hrequired, hmissing, rfl⟩ | ⟨property, value, hmem, hfinding⟩
  · rcases has_of_resource? hr htype hrequired with hhas | ⟨hsubnet, hnone⟩
    · rw [hhas] at hmissing
      exact Bool.noConfusion hmissing
    · rw [hsubnet] at htype
      cases htype
      obtain rfl := List.mem_singleton.mp hrequired
      exact .network hsubnet hnone
  · obtain ⟨hknown, hvalue⟩ := follows_of_resource? hr htype property value hmem
    rcases hfinding with ⟨hunknown, -⟩ | ⟨-, violation, hviolation, rfl⟩
    · rw [hknown] at hunknown
      exact Bool.noConfusion hunknown
    · rcases hvalue with haccepted | hcopies
      · rw [haccepted] at hviolation
        exact absurd hviolation nofun
      · exact .copy hcopies

/-- Whatever is found about the properties of a generated template is found about the resource of
a node, and the drawing is to blame. -/
lemma exists_blamed_of_mem_findings {g : Graph} {p : Policy}
    (hf : f ∈ Pass.properties.findings p g.template) :
    ∃ n ∈ g.nodes, n.Blamed (.ofNodes g.nodes) f ∧ ∃ r roleId,
      g.template.resources.get? n.id = some r ∧ n.resource? (.ofNodes g.nodes) roleId = some r := by
  obtain ⟨⟨id, r⟩, hmem, hfinding⟩ := List.mem_flatMap.mp hf
  rcases (emitted_template g).origin id r hmem with ⟨n, hn, rfl, roleId, hr, -⟩ | ⟨rfl, -, -⟩
  · have hblamed := blamed_of_mem_propertyFindings hr hfinding
    exact ⟨n, hn, hblamed, r, roleId, Table.get?_eq_some_iff.mpr hmem, hr⟩
  · exact absurd hfinding (conforms_executionRole.not_mem_propertyFindings id f)

/-! ## Subnets without a network -/

/-- Among nodes with distinct ids, there is no network for a node exactly if it names none and there
is not exactly one. -/
lemma vpcOf?_ofNodes_eq_none_iff {nodes : List Node} (hdistinct : (nodes.map Node.id).Nodup) :
    (Surroundings.ofNodes nodes).vpcOf? n = none ↔
      n.text? "vpcId" = none ∧ (nodes.filter (·.kind == .vpc)).length ≠ 1 := by
  have hids : (Surroundings.ofNodes nodes).vpcIds =
      (nodes.filter (·.kind == .vpc)).map Node.id :=
    pushAllNew_eq_append (hdistinct.sublist (List.filter_sublist.map Node.id))
  unfold Surroundings.vpcOf?
  rw [hids]
  cases n.text? "vpcId" with
  | some id => simp
  | none =>
    generalize nodes.filter (·.kind == .vpc) = vpcs
    match vpcs with
    | [] | [_] | _ :: _ :: _ => simp

/-- A subnet without a network lacks it. -/
lemma missing_mem_propertyFindings (hnone : s.vpcOf? n = none) (id : String) :
    .missingProperty id "VpcId" ∈ propertyFindings id (subnetResource s n) := by
  have hspec : specOf? (subnetResource s n).typeName = some ResourceType.subnet.spec := by
    simp [subnetResource, specOf?_name]
  have hlacks : (subnetResource s n).has "VpcId" = false := by
    have hproperty : (subnetResource s n).property? "VpcId" = none := by
      simp [subnetResource, property?_set, property?_set?, placedIn, hnone]
    rw [Resource.has, hproperty]
  rw [mem_propertyFindings_iff hspec]
  exact .inl ⟨"VpcId", by decide, hlacks, rfl⟩

/-- Whatever the attributes and the ids of the nodes, of the properties in their template is found
at most that a subnet has no network, and that something copied from the drawing breaks its rule.
If the ids are distinct, the network is missing in exactly those subnets that name none, while there
is not exactly one. -/
theorem propertyFindings_generate (p : Policy) (nodes : List Node) (edges : List Edge)
    (name : String) (description : Option String) :
    (∀ f ∈ Pass.properties.findings p (generate nodes edges name description),
      (∃ id r, f = .missingProperty id "VpcId" ∧
        (generate nodes edges name description).resources.get? id = some r ∧
        r.typeName = ResourceType.subnet.name) ∨
      ∃ id property violation, f = .invalidProperty id property violation ∧
        property ∉ generatedProperties) ∧
    ((nodes.map Node.id).Nodup → ∀ id,
      .missingProperty id "VpcId" ∈
          Pass.properties.findings p (generate nodes edges name description) ↔
        ∃ n ∈ nodes, n.id = id ∧ n.kind = .subnet ∧ n.text? "vpcId" = none ∧
          (nodes.filter (·.kind == .vpc)).length ≠ 1) := by
  have hfound := fun f => exists_blamed_of_mem_findings (f := f) (p := p)
    (g := ⟨name, description, nodes, edges⟩)
  constructor
  · intro f hf
    obtain ⟨n, hn, hblamed, r, roleId, hget, hr⟩ := hfound f hf
    cases hblamed with
    | network hkind hnone =>
      obtain ⟨type, htype, hname⟩ := typeName_of_resource? hr
      rw [hkind] at htype
      cases htype
      exact .inl ⟨n.id, r, rfl, hget, hname⟩
    | copy hcopies => exact .inr ⟨n.id, _, _, rfl, not_mem_generatedProperties hcopies⟩
  · intro hdistinct id
    constructor
    · intro hf
      obtain ⟨n, hn, hblamed, -⟩ := hfound _ hf
      cases hblamed with
      | network hkind hnone =>
        exact ⟨n, hn, rfl, hkind, (vpcOf?_ofNodes_eq_none_iff hdistinct).mp hnone⟩
    · rintro ⟨n, hn, rfl, hkind, hnone⟩
      have hlaid := laid_generate hdistinct edges name description
      have hr : n.resource? (.ofNodes nodes) ((Surroundings.ofNodes nodes).roleId n) =
          some (subnetResource (.ofNodes nodes) n) := by
        rw [Node.resource?, hkind]
      have hmem := Table.get?_eq_some_iff.mp (hlaid.get?_own hn hr)
      refine List.mem_flatMap.mpr ⟨_, hmem, ?_⟩
      exact missing_mem_propertyFindings ((vpcOf?_ofNodes_eq_none_iff hdistinct).mpr hnone) n.id

/-- Two networks, a subnet that names one of them, and two that do not, one of these with an
attribute of another shape in the place of the name. -/
def twoNetworks : List Node := [
  ⟨"East", .vpc, .ofList [("cidrBlock", .bool true)]⟩,
  ⟨"West", .vpc, .empty⟩,
  ⟨"Placed", .subnet, .ofList [("vpcId", .string "East")]⟩,
  ⟨"Loose", .subnet, .ofList [("vpcId", .list [.string "East"])]⟩,
  ⟨"Lost", .subnet, .ofList [("vpcId", .string "")]⟩]

/-- Of the three subnets in two networks, the network is missing in the two that name none. -/
theorem propertyFindings_generate_twoNetworks :
    (twoNetworks.map Node.id).Nodup ∧
      (.missingProperty "Loose" "VpcId" ∈
        Pass.properties.findings {} (generate twoNetworks [] "" none)) ∧
      (.missingProperty "Lost" "VpcId" ∈
        Pass.properties.findings {} (generate twoNetworks [] "" none)) ∧
      .missingProperty "Placed" "VpcId" ∉
        Pass.properties.findings {} (generate twoNetworks [] "" none) := by
  have hdistinct : (twoNetworks.map Node.id).Nodup := by decide
  have hmissing := (propertyFindings_generate {} twoNetworks [] "" none).2 hdistinct
  refine ⟨hdistinct, ?_, ?_, ?_⟩
  · rw [hmissing]
    decide
  · rw [hmissing]
    decide
  · rw [hmissing]
    decide

end CloudTemplate
