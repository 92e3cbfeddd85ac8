import CloudTemplate.Pipeline
import CloudTemplate.Proofs.Dependency.Order
import CloudTemplate.Proofs.Generation.Coherent
import CloudTemplate.Proofs.Generation.Outputs
import CloudTemplate.Proofs.Validation.Report

/-!
# Coherent drawings are accepted

`valid_of_coherent` is the contract between the generator and the validator: the draft of a coherent
drawing has no errors, whatever the policy.  The passes are taken one by one.  The ids of the
template are those of the drawing and of generated roles (`Coherent.isLogicalId_of_mem_keys`); each
resource agrees with the catalog, also where it copies what the drawing says (`Coherent.conforms`);
all names resolve (`Coherent.resolves`), and as ranks go down along dependencies, no resource needs
itself through others (`Coherent.paths_eq_nil`).
-/

namespace CloudTemplate

/-! ## Agreement with the catalog -/

/-- A resource agrees with what the catalog says of a type. -/
structure Resource.Conforms (r : Resource) (type : ResourceType) : Prop where
  typeName : r.typeName = type.name
  required : ∀ property ∈ type.spec.required, r.has property = true
  known : ∀ property value, (property, value) ∈ r.properties.entries →
    type.spec.knows property = true
  accepted : ∀ property value, (property, value) ∈ r.properties.entries →
    type.spec.violation? property value = none

lemma specOf?_name (type : ResourceType) : specOf? type.name = some type.spec := by
  cases type <;> rfl

/-- Nothing is found about a resource that agrees with the catalog. -/
lemma Resource.Conforms.not_mem_propertyFindings {r : Resource} {type : ResourceType}
    (h : r.Conforms type) (id : String) (f : Finding) : f ∉ propertyFindings id r := by
  have hspec : specOf? r.typeName = some type.spec := by rw [h.typeName, specOf?_name]
  rw [mem_propertyFindings_iff hspec]
  rintro (⟨property, hrequired, hmissing, -⟩ | ⟨property, value, hmem, hfinding⟩)
  · rw [h.required property hrequired] at hmissing
    exact Bool.noConfusion hmissing
  · rcases hfinding with ⟨hunknown, -⟩ | ⟨-, violation, hviolation, -⟩
    · rw [h.known property value hmem] at hunknown
      exact Bool.noConfusion hunknown
    · rw [h.accepted property value hmem] at hviolation
      exact absurd hviolation (by simp)

lemma conforms_executionRole : executionRole.Conforms .role := by
  have hknown : ∀ entry ∈ executionRole.properties.entries,
      ResourceType.role.spec.knows entry.1 = true := by decide
  have haccepted : ∀ entry ∈ executionRole.properties.entries,
      ResourceType.role.spec.violation? entry.1 entry.2 = none := by decide
  exact ⟨rfl, by decide, fun _ _ hmem => hknown _ hmem, fun _ _ hmem => haccepted _ hmem⟩

/-! ## What is copied -/

lemma Node.ne_empty_of_text? {n : Node} {key text : String} (h : n.text? key = some text) :
    text ≠ "" := by
  unfold Node.text? at h
  split at h
  · split at h
    · simp at h
    · next hne => exact Option.some.inj h ▸ hne
  · simp at h

/-- A rule that admits traffic to a port of the network is accepted. -/
lemma ingressRule?_portRule {source : PropertyValue} {port : Int}
    (hport : Bounds.networkPort.Admits port) (index : Nat) :
    Rule.ingressRule? index (portRule source port) = none := by
  have hexact : Bounds.networkPort.Exact := by decide
  have hprotocol : ingressProtocol? (portRule source port) = some "tcp" := by
    have hlower : asciiLower "tcp" = "tcp" := by decide
    have hname : (portRule source port).get? "IpProtocol" = some (.string "tcp") := rfl
    rw [ingressProtocol?, hname]
    exact congrArg some hlower
  have hrulePort : ∀ name, (portRule source port).get? name = some (.ofInt port) →
      Rule.rulePort? index "tcp" name (portRule source port) = none := by
    intro name hname
    have hwildcard : hasWildcardPorts "tcp" = false := by decide
    simp only [Rule.rulePort?, hname, hwildcard, Bool.false_and, Bool.false_eq_true, if_false,
      hexact.fault?_ofInt hport, Option.map_none]
  have hintrinsic : (portRule source port).isIntrinsic = false := rfl
  have hmap : (portRule source port).asMap?.isNone = false := rfl
  simp only [Rule.ingressRule?, hintrinsic, hmap, hprotocol, Bool.false_eq_true, if_false,
    hrulePort "FromPort" rfl, hrulePort "ToPort" rfl, Option.or_none]

lemma ingressRules?_ingressRules {n : Node}
    (hports : ∀ port ∈ ingressPorts n, Bounds.networkPort.Admits port) :
    Rule.ingressRules? (ingressRules n) = none := by
  rw [ingressRules, Rule.ingressRules?, PropertyValue.asList?]
  dsimp only
  rw [List.findSome?_eq_none_iff]
  rintro ⟨rule, index⟩ hmem
  obtain ⟨port, hport, rfl⟩ := List.mem_map.mp (List.fst_mem_of_mem_zipIdx hmem)
  exact ingressRule?_portRule (hports port hport) index

/-- A logical id begins with a letter, and so is not blank. -/
lemma apiName?_of_isLogicalId {id : String} (h : isLogicalId id = true) :
    Rule.apiName? (.string id) = none := by
  have htrim : trimBlanks id.toList ≠ [] := by
    unfold isLogicalId at h
    cases hchars : id.toList with
    | nil =>
      rw [hchars] at h
      exact absurd h Bool.false_ne_true
    | cons first more =>
      rw [hchars, isLogicalIdShape, Bool.and_eq_true] at h
      exact trimBlanks_cons_ne_nil (isBlank_of_isLetter h.1) more
  have hempty : (trimBlanks id.toList).isEmpty = false := List.isEmpty_eq_false_iff.mpr htrim
  simp only [Rule.apiName?, PropertyValue.asText?, hempty, Bool.false_eq_true, if_false]

namespace Graph.Coherent

variable {g : Graph} (h : g.Coherent) {n : Node} {id : String} {r : Resource}
include h

/-- What is copied from a coherent drawing obeys the rules. -/
lemma violation?_of_copies (hn : n ∈ g.nodes) {type : ResourceType}
    (htype : n.kind.type? = some type) {property : String} {value : PropertyValue}
    (hcopies : n.Copies property value) : type.spec.violation? property value = none := by
  cases hcopies with
  | text hmem htext => exact h.texts n hn type htype _ hmem _ htext
  | value hmem hvalue => exact h.values n hn type htype _ hmem _ hvalue
  | description hkind =>
    obtain ⟨text, htext, hlength⟩ := h.described n hn hkind
    rw [Option.mem_def] at htext
    have hrule : Rule.violation? .groupDescription (n.textOr "description" "") = none := by
      simp only [Rule.violation?, Rule.groupDescription?, Rule.onText, Node.textOr, htext,
        Option.getD_some, PropertyValue.asText?, Node.ne_empty_of_text? htext, if_false,
        Nat.not_lt.mpr hlength]
    rw [hkind] at htype
    cases htype
    exact Spec.violation?_of_rule rfl hrule
  | ingress hkind =>
    rw [hkind] at htype
    cases htype
    have hrule : Rule.violation? .ingressRules (ingressRules n) = none :=
      ingressRules?_ingressRules (h.ports n hn hkind)
    exact Spec.violation?_of_rule rfl hrule
  | id hkind _ =>
    rw [hkind] at htype
    cases htype
    have hrule : Rule.violation? .apiName (.string n.id) = none :=
      apiName?_of_isLogicalId (h.logical n hn)
    exact Spec.violation?_of_rule rfl hrule

lemma conforms_of_resource? {roleId : String} (hn : n ∈ g.nodes)
    (hr : n.resource? (.ofNodes g.nodes) roleId = some r) : ∃ type, r.Conforms type := by
  obtain ⟨type, htype, hname⟩ := typeName_of_resource? hr
  have hfollows : r.Follows type.spec n := follows_of_resource? hr htype
  refine ⟨type, hname, fun property hrequired => ?_, fun property value hmem => ?_,
    fun property value hmem => ?_⟩
  · rcases has_of_resource? hr htype hrequired with hhas | ⟨hsubnet, hnone⟩
    · exact hhas
    · obtain ⟨vpc, hvpc⟩ := h.exists_vpcOf? hn hsubnet
      exact absurd (hnone.symm.trans hvpc) (by simp)
  · exact (hfollows property value hmem).1
  · rcases (hfollows property value hmem).2 with hnone | hcopies
    · exact hnone
    · exact h.violation?_of_copies hn htype hcopies

/-- The resources of the template of a coherent drawing agree with the catalog. -/
lemma conforms (hmem : (id, r) ∈ g.template.resources.entries) : ∃ type, r.Conforms type := by
  rcases (emitted_template g).origin id r hmem with ⟨n, hn, -, roleId, hr, -⟩ | ⟨rfl, -, -⟩
  · exact h.conforms_of_resource? hn hr
  · exact ⟨.role, conforms_executionRole⟩

/-! ## The passes -/

lemma isLogicalId_of_mem_keys (hid : id ∈ g.template.resources.keys) : isLogicalId id = true := by
  obtain ⟨r, hmem⟩ := Entries.exists_mem_of_mem_keys hid
  rcases (emitted_template g).origin id r hmem with ⟨n, hn, rfl, -⟩ | ⟨-, -, n, hn, m, rfl⟩
  · exact h.logical n hn
  · exact isLogicalId_roleCandidate (h.logical n hn) m

lemma not_mem_structural (p : Policy) (f : Finding) :
    f ∉ Pass.structural.findings p g.template := by
  obtain ⟨hversion, hdescription⟩ := head_template g
  rw [Pass.findings, mem_structureFindings_iff]
  rintro (⟨hother, -⟩ | ⟨hlong, -⟩ | ⟨hempty, -⟩ | ⟨id, hid, ⟨hshape, -⟩ | ⟨hlong, -⟩⟩)
  · exact hother hversion
  · rw [hdescription] at hlong
    exact absurd h.description (Nat.not_le.mpr hlong)
  · obtain ⟨n, hn, hkind⟩ := h.supported
    have hkey : n.id ∈ g.template.resources.keys := (emitted_template g).present n hn hkind
    obtain ⟨r, hmem⟩ := Entries.exists_mem_of_mem_keys hkey
    rw [List.isEmpty_iff.mp hempty] at hmem
    exact absurd hmem List.not_mem_nil
  · rw [h.isLogicalId_of_mem_keys hid] at hshape
    exact Bool.noConfusion hshape
  · exact absurd (h.short id hid) (Nat.not_le.mpr hlong)

lemma not_mem_properties (p : Policy) (f : Finding) :
    f ∉ Pass.properties.findings p g.template := by
  intro hf
  obtain ⟨⟨id, r⟩, hmem, hfinding⟩ := List.mem_flatMap.mp hf
  obtain ⟨type, hconforms⟩ := h.conforms hmem
  exact hconforms.not_mem_propertyFindings id f hfinding

lemma resolves (hmem : (id, r) ∈ g.template.resources.entries) {reference : Reference}
    (hmentions : r.Mentions reference) : g.template.Resolves reference :=
  .inl (h.needs hmem (.inr ⟨reference, hmentions, rfl⟩)).1

/-- As ranks go down along dependencies, there are no circles. -/
lemma paths_eq_nil (limit depth : Nat) :
    (findCycles (g.template.dependencyGraph limit) depth).paths = [] := by
  refine CycleSearch.paths_eq_nil_of_edge_lt g.rank fun a b hedge => ?_
  obtain ⟨r, hmem, hneeds, -⟩ := Template.needs_of_edge hedge
  exact (h.needs hmem hneeds).2

/-- What is found about names is at most that a limit was too low to look at them all. -/
lemma isError_eq_false_of_mem_dependencies (p : Policy) {f : Finding}
    (hf : f ∈ Pass.dependencies.findings p g.template) : f.isError = false := by
  rcases mem_dependencyFindings_iff.mp hf with ⟨id, r, hmem, hf⟩ | hf | hf
  · rcases Template.mem_nameFindings_iff.mp hf with ⟨target, htarget, habsent, -⟩ |
      ⟨property, value, hvalue, reference, hfound, hdangling, -⟩ | ⟨-, rfl⟩
    · exact absurd (h.needs hmem (.inl htarget)).1 habsent
    · have hmentions := PropertyValue.mentions_of_mem_scan hfound
      exact absurd (h.resolves hmem ⟨property, value, hvalue, hmentions⟩) hdangling
    · rfl
  · obtain ⟨name, o, hmem, reference, hfound, hdangling, -⟩ :=
      Template.mem_outputNameFindings_iff.mp hf
    have hmentions := PropertyValue.mentions_of_mem_scan hfound
    exact absurd (resolves_of_mem_outputs g hmem hmentions) hdangling
  · rcases Template.mem_cycleFindings_iff.mp hf with ⟨first, more, hpath, -⟩ | ⟨-, rfl⟩
    · rw [h.paths_eq_nil] at hpath
      exact absurd hpath List.not_mem_nil
    · rfl

end Graph.Coherent

/-- The draft of a coherent drawing has no errors. -/
theorem valid_of_coherent (p : Policy) (g : Graph) (h : g.Coherent) :
    (draft p g).report.valid = true := by
  rw [draft, valid_validate_iff]
  intro pass _ f hf
  cases pass with
  | structural => exact absurd hf (h.not_mem_structural p f)
  | properties => exact absurd hf (h.not_mem_properties p f)
  | dependencies => exact h.isError_eq_false_of_mem_dependencies p hf
  | bestPractices => exact isError_eq_false_of_mem_bestPractices hf

/-- A small shop: a machine in a network, and a function that takes orders. -/
def shopDrawing : Graph where
  name := "shop"
  nodes := [
    ⟨"Server", .ec2, .ofList [("subnetId", .string "Front"),
      ("securityGroupIds", .list [.string "Web"]), ("instanceType", .string "t3.small")]⟩,
    ⟨"Front", .subnet, .ofList [("cidrBlock", .string "10.0.2.0/24")]⟩,
    ⟨"Net", .vpc, .empty⟩,
    ⟨"Web", .securityGroup, .ofList [("description", .string "Customers"),
      ("ingressPorts", .list [.ofInt 443])]⟩,
    ⟨"Order", .lambda, .ofList [("runtime", .string "python3.12")]⟩,
    ⟨"OrderRole", .s3, .ofList [("bucketName", .string "shop-orders")]⟩,
    ⟨"Desk", .apiGateway, .empty⟩,
    ⟨"Clock", .unsupported, .empty⟩]
  edges := [⟨"Desk", "Order"⟩, ⟨"Order", "Desk"⟩]

lemma plain_shopDrawing : ∀ n ∈ shopDrawing.nodes, ∀ key, ∀ value ∈ n.attribute? key,
    value.Plain := by
  intro n hn key value hvalue
  have hmem := Node.mem_values_of_attribute? hn hvalue
  have hvalues : shopDrawing.nodes.flatMap (·.attributes.values) =
      [.string "Front", .list [.string "Web"], .string "t3.small", .string "10.0.2.0/24",
        .string "Customers", .list [.ofInt 443], .string "python3.12",
        .string "shop-orders"] := by decide
  rw [hvalues] at hmem
  simp only [List.mem_cons, List.not_mem_nil, or_false] at hmem
  rcases hmem with rfl | rfl | rfl | rfl | rfl | rfl | rfl | rfl <;> simp

/-- The role that is generated for the function gives way to the bucket that has its name. -/
theorem valid_of_coherent_shopDrawing :
    shopDrawing.Coherent ∧ (draft {} shopDrawing).report.valid = true := by
  have hcoherent : shopDrawing.Coherent := {
    distinct := by decide
    logical := by decide
    short := by decide +kernel
    supported := by decide
    description := by decide
    plain := plain_shopDrawing
    vpcs := by decide
    subnets := by decide
    groups := by decide
    onlyVpc := by decide
    described := by decide
    ports := by decide
    texts := by decide
    values := by decide }
  exact ⟨hcoherent, valid_of_coherent {} shopDrawing hcoherent⟩

end CloudTemplate
