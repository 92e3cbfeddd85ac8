import CloudTemplate.Proofs.Generation.Entries
import CloudTemplate.Proofs.Generation.Network

/-!
# The order of the nodes

An editor keeps the nodes of a drawing in the order in which they were drawn, and a template should
not depend on it.  It does not, if no two nodes share an id: what a node contributes takes nothing
from the order (`entries_ofNodes_eq_of_perm`), neither the name of a generated role nor the network
to which a node without one belongs, and so the template holds the same under every name
(`get?_generate_of_perm`).
-/

namespace CloudTemplate

variable {nodes others : List Node}

/-- Whether there is one network, and which, does not depend on the order of the nodes. -/
lemma vpcOf?_ofNodes_eq_of_perm (h : nodes.Perm others) (n : Node) :
    (Surroundings.ofNodes nodes).vpcOf? n = (Surroundings.ofNodes others).vpcOf? n := by
  cases htext : n.text? "vpcId" with
  | some id => rw [vpcOf?_of_text? htext, vpcOf?_of_text? htext]
  | none =>
    apply Option.ext
    intro id
    rw [vpcOf?_ofNodes_eq_some_iff htext, vpcOf?_ofNodes_eq_some_iff htext]
    simp only [h.mem_iff]

lemma roleId_ofNodes_eq_of_perm (h : nodes.Perm others) (n : Node) :
    (Surroundings.ofNodes nodes).roleId n = (Surroundings.ofNodes others).roleId n := by
  apply freeRoleId_congr
  intro k
  exact (h.map Node.id).mem_iff

/-- Of the rest of a drawing, the resource of a node takes no more than its network. -/
lemma resource?_congr {s s' : Surroundings} {n : Node} (h : s.vpcOf? n = s'.vpcOf? n)
    (roleId : String) : n.resource? s roleId = n.resource? s' roleId := by
  unfold Node.resource? subnetResource securityGroupResource
  rw [h]

lemma entries_ofNodes_eq_of_perm (h : nodes.Perm others) (n : Node) :
    n.entries (.ofNodes nodes) = n.entries (.ofNodes others) := by
  unfold Node.entries Node.generatedRole Node.ownResource
  rw [roleId_ofNodes_eq_of_perm h, resource?_congr (vpcOf?_ofNodes_eq_of_perm h n)]

/-- The template of nodes with distinct ids does not depend on their order: under every id there is
the same resource, and under every name the same output. -/
theorem get?_generate_of_perm (nodes others : List Node) (hdistinct : (nodes.map Node.id).Nodup)
    (h : nodes.Perm others) (edges : List Edge) (name : String) (description : Option String) :
    (∀ id, (generate nodes edges name description).resources.get? id =
      (generate others edges name description).resources.get? id) ∧
    ∀ output, (generate nodes edges name description).outputs.get? output =
      (generate others edges name description).outputs.get? output := by
  have hlaid := laid_generate hdistinct edges name description
  have hlaid' := laid_generate ((h.map Node.id).nodup_iff.mp hdistinct) edges name description
  constructor
  · apply Table.get?_eq_of_perm
    rw [hlaid.resources, hlaid'.resources]
    have hentries : Node.entries (.ofNodes nodes) = Node.entries (.ofNodes others) :=
      funext (entries_ofNodes_eq_of_perm h)
    rw [hentries]
    exact h.flatMap_right _
  · apply Table.get?_eq_of_perm
    rw [hlaid.outputs, hlaid'.outputs]
    exact h.filterMap _

/-- The nodes may be drawn in the opposite order. -/
theorem get?_generate_of_perm_crowdedNodes :
    (crowdedNodes.map Node.id).Nodup ∧ crowdedNodes.Perm crowdedNodes.reverse ∧
      (∀ id, (generate crowdedNodes [] "" none).resources.get? id =
        (generate crowdedNodes.reverse [] "" none).resources.get? id) ∧
      ∀ output, (generate crowdedNodes [] "" none).outputs.get? output =
        (generate crowdedNodes.reverse [] "" none).outputs.get? output := by
  have hdistinct : (crowdedNodes.map Node.id).Nodup := by decide
  have hperm : crowdedNodes.Perm crowdedNodes.reverse := (List.reverse_perm _).symm
  exact ⟨hdistinct, hperm, get?_generate_of_perm _ _ hdistinct hperm [] "" none⟩

end CloudTemplate
