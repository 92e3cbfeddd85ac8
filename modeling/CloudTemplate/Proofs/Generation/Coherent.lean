import CloudTemplate.Proofs.Generation.Conformance
import CloudTemplate.Proofs.Generation.Content
import CloudTemplate.Proofs.Generation.Network
import CloudTemplate.Proofs.Generation.Uses
import CloudTemplate.Proofs.Value.Basic

/-!
# Coherent drawings

`Graph.Coherent` says what a drawing has to be for its template to be accepted: the ids are fit for
resources, what is named is drawn, and what is copied into properties with rules obeys the rules.

The kinds of nodes have a rank, and a node of a coherent drawing uses only what is drawn and of
lower rank (`Coherent.uses`).  So every resource of the template needs only resources that are
there, and the rank goes down along every dependency (`Coherent.needs`).
-/

namespace CloudTemplate

/-! ## Plain values -/

namespace PropertyValue

/-- Nothing inside a value is known only at deployment. -/
def Plain (v : PropertyValue) : Prop := ∀ w, Inside w v → w.isIntrinsic = false

/-- What names other resources is known only at deployment. -/
lemma IsLink.isIntrinsic {v : PropertyValue} (h : v.IsLink) : v.isIntrinsic = true := by
  cases h <;> rfl

@[simp]
lemma plain_string (text : String) : Plain (.string text) := by
  rintro w ⟨⟩
  rfl

@[simp]
lemma plain_ofInt (n : Int) : Plain (.ofInt n) := by
  rintro w ⟨⟩
  rfl

@[simp]
lemma plain_list_iff {items : List PropertyValue} :
    Plain (.list items) ↔ ∀ item ∈ items, item.Plain := by
  unfold Plain
  rw [forall_inside_list_iff]
  exact and_iff_right rfl

lemma Plain.silent {v : PropertyValue} (h : v.Plain) : v.Silent := by
  intro reference hmentions
  obtain ⟨w, hinside, hlink⟩ := exists_isLink_of_mentions hmentions
  exact Bool.false_ne_true ((h w hinside).symm.trans hlink.isIntrinsic)

end PropertyValue

/-! ## Coherence -/

namespace Graph

/-- A node of a kind is drawn under an id. -/
def Draws (g : Graph) (kind : NodeKind) (id : String) : Prop :=
  ∃ n ∈ g.nodes, n.kind = kind ∧ n.id = id

instance (g : Graph) (kind : NodeKind) (id : String) : Decidable (g.Draws kind id) :=
  inferInstanceAs (Decidable (∃ n ∈ g.nodes, n.kind = kind ∧ n.id = id))

/-- A drawing whose template is accepted. -/
structure Coherent (g : Graph) : Prop where
  /-- The ids of the nodes are distinct. -/
  distinct : (g.nodes.map Node.id).Nodup
  /-- They are logical ids. -/
  logical : ∀ n ∈ g.nodes, isLogicalId n.id = true
  /-- No resource of the template has too long an id. -/
  short : ∀ id ∈ g.template.resources.keys, id.utf8ByteSize ≤ 255
  /-- Some node is of a supported kind. -/
  supported : ∃ n ∈ g.nodes, n.kind ≠ .unsupported
  /-- The description that is given, or else the default one, is not too long. -/
  description : (g.description.getD (defaultDescription g.name)).utf8ByteSize ≤ 1024
  /-- No attribute holds anything that is known only at deployment. -/
  plain : ∀ n ∈ g.nodes, ∀ key, ∀ value ∈ n.attribute? key, value.Plain
  /-- The networks that are named are drawn. -/
  vpcs : ∀ n ∈ g.nodes, ∀ id ∈ n.text? "vpcId", g.Draws .vpc id
  /-- The subnets that are named are drawn. -/
  subnets : ∀ n ∈ g.nodes, ∀ id ∈ n.text? "subnetId", g.Draws .subnet id
  /-- The security groups that are named are drawn. -/
  groups : ∀ n ∈ g.nodes, ∀ id ∈ n.ids "securityGroupIds", g.Draws .securityGroup id
  /-- A subnet that names no network is drawn with exactly one. -/
  onlyVpc : ∀ n ∈ g.nodes, n.kind = .subnet → n.text? "vpcId" = none →
    (g.nodes.filter (·.kind == .vpc)).length = 1
  /-- A security group has a description, which is not too long. -/
  described : ∀ n ∈ g.nodes, n.kind = .securityGroup →
    ∃ text ∈ n.text? "description", text.length ≤ 255
  /-- The ports on which it admits traffic are in range. -/
  ports : ∀ n ∈ g.nodes, n.kind = .securityGroup → ∀ port ∈ ingressPorts n, 0 ≤ port ∧ port ≤ 65535
  /-- Texts that are copied into properties with rules are accepted. -/
  texts : ∀ n ∈ g.nodes, ∀ type ∈ n.kind.type?, ∀ copy ∈ n.kind.copiedTexts,
    ∀ text ∈ n.text? copy.1, type.spec.violation? copy.2 (.string text) = none
  /-- So are values that are copied as they are. -/
  values : ∀ n ∈ g.nodes, ∀ type ∈ n.kind.type?, ∀ copy ∈ n.kind.copiedValues,
    ∀ value ∈ n.attribute? copy.1, type.spec.violation? copy.2 value = none

end Graph

/-! ## Ranks -/

/-- The rank of a kind: a node uses only nodes of lower rank, and generated roles. -/
def NodeKind.rank : NodeKind → Nat
  | .subnet | .securityGroup | .lambda => 1
  | .ec2 | .rds => 2
  | _ => 0

/-- The rank of the node with an id; other ids have the lowest rank. -/
def Graph.rank (g : Graph) (id : String) : Nat :=
  ((g.nodes.find? (·.id == id)).map (·.kind.rank)).getD 0

variable {g : Graph} {n : Node} {id target : String} {r : Resource}

lemma rank_of_not_mem (h : id ∉ g.nodes.map Node.id) : g.rank id = 0 := by
  have hnone : g.nodes.find? (·.id == id) = none := by
    rw [List.find?_eq_none]
    intro n hn hid
    exact h (List.mem_map.mpr ⟨n, hn, by simpa using hid⟩)
  rw [Graph.rank, hnone]
  rfl

namespace Graph.Coherent

variable (h : g.Coherent)
include h

lemma rank_of_mem (hn : n ∈ g.nodes) : g.rank n.id = n.kind.rank := by
  cases hfind : g.nodes.find? (·.id == n.id) with
  | none =>
    rw [List.find?_eq_none] at hfind
    exact absurd (beq_self_eq_true n.id) (hfind n hn)
  | some m =>
    have hid : m.id = n.id := by simpa using List.find?_some hfind
    obtain rfl := List.inj_on_of_nodup_map h.distinct (List.mem_of_find?_eq_some hfind) hn hid
    rw [Graph.rank, hfind]
    rfl

/-- What is drawn of a supported kind is in the template, and has the rank of its kind. -/
lemma of_draws {kind : NodeKind} (hdraws : g.Draws kind id) (hkind : kind ≠ .unsupported) :
    id ∈ g.template.resources.keys ∧ g.rank id = kind.rank := by
  obtain ⟨n, hn, rfl, rfl⟩ := hdraws
  exact ⟨(emitted_template g).present n hn hkind, h.rank_of_mem hn⟩

lemma draws_of_vpcOf? (hn : n ∈ g.nodes)
    (hvpc : (Surroundings.ofNodes g.nodes).vpcOf? n = some id) : g.Draws .vpc id := by
  cases hnamed : n.text? "vpcId" with
  | some named =>
    rw [vpcOf?_of_text? hnamed, Option.some.injEq] at hvpc
    exact h.vpcs n hn id (hvpc ▸ hnamed)
  | none => exact ((vpcOf?_ofNodes_eq_some_iff hnamed).mp hvpc).1

lemma exists_vpcOf? (hn : n ∈ g.nodes) (hkind : n.kind = .subnet) :
    ∃ id, (Surroundings.ofNodes g.nodes).vpcOf? n = some id := by
  unfold Surroundings.vpcOf?
  cases hnamed : n.text? "vpcId" with
  | some id => exact ⟨id, rfl⟩
  | none =>
    obtain ⟨vpc, hvpc⟩ := List.length_eq_one_iff.mp (h.onlyVpc n hn hkind hnamed)
    have honly : (Surroundings.ofNodes g.nodes).vpcIds = [vpc.id] := by
      rw [Surroundings.ofNodes, hvpc]
      rfl
    exact ⟨vpc.id, by rw [honly]⟩

/-- What a node uses is in the template and of lower rank. -/
lemma uses {roleId : String} (hn : n ∈ g.nodes)
    (hrole : n.needsRole = true → roleId ∈ g.template.resources.keys ∧
      roleId ∉ (Surroundings.ofNodes g.nodes).ids)
    (htarget : target ∈ n.uses (.ofNodes g.nodes) roleId) :
    target ∈ g.template.resources.keys ∧ g.rank target < n.kind.rank := by
  -- Generated roles apart, what is used is drawn, and it is enough to compare the kinds.
  have hdrawn : ∀ {kind : NodeKind}, g.Draws kind target → kind ≠ .unsupported →
      kind.rank < n.kind.rank →
      target ∈ g.template.resources.keys ∧ g.rank target < n.kind.rank := by
    intro kind hdraws hkind hlt
    obtain ⟨hmem, hrank⟩ := h.of_draws hdraws hkind
    exact ⟨hmem, hrank ▸ hlt⟩
  unfold Node.uses at htarget
  cases hkind : n.kind <;> rw [hkind] at htarget hdrawn
  case subnet =>
    exact hdrawn (h.draws_of_vpcOf? hn (Option.mem_toList.mp htarget)) (by decide) (by decide)
  case securityGroup =>
    exact hdrawn (h.draws_of_vpcOf? hn (Option.mem_toList.mp htarget)) (by decide) (by decide)
  case ec2 =>
    rcases List.mem_append.mp htarget with hsubnet | hgroup
    · exact hdrawn (h.subnets n hn target (Option.mem_toList.mp hsubnet)) (by decide) (by decide)
    · exact hdrawn (h.groups n hn target hgroup) (by decide) (by decide)
  case rds => exact hdrawn (h.groups n hn target htarget) (by decide) (by decide)
  case lambda =>
    dsimp only at htarget
    split at htarget
    · next hneeds =>
      obtain ⟨hmem, hfree⟩ := hrole hneeds
      rw [List.mem_singleton.mp htarget]
      exact ⟨hmem, by rw [rank_of_not_mem hfree]; decide⟩
    · exact absurd htarget List.not_mem_nil
  all_goals exact absurd htarget List.not_mem_nil

lemma silent (hn : n ∈ g.nodes) : n.Silent :=
  fun key value hvalue => (h.plain n hn key value hvalue).silent

/-- What a resource needs is in the template and of lower rank. -/
lemma needs (hmem : (id, r) ∈ g.template.resources.entries) (hneeds : r.Needs target) :
    target ∈ g.template.resources.keys ∧ g.rank target < g.rank id := by
  rcases (emitted_template g).origin id r hmem with ⟨n, hn, rfl, roleId, hr, hrole⟩ | ⟨rfl, -, -⟩
  · have hdepends : target ∈ r.dependsOn := by
      rcases hneeds with hlisted | ⟨reference, hmentions, rfl⟩
      · exact hlisted
      · exact grounded_of_resource? (h.silent hn) hr reference hmentions
    rw [h.rank_of_mem hn]
    exact h.uses hn hrole ((mem_dependsOn_iff hr).mp hdepends)
  · rcases hneeds with hlisted | ⟨reference, hmentions, rfl⟩
    · exact absurd hlisted List.not_mem_nil
    · exact absurd (grounded_executionRole reference hmentions) List.not_mem_nil

end Graph.Coherent

end CloudTemplate
