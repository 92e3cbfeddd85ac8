import CloudTemplate.Proofs.Generation.Conformance
import CloudTemplate.Proofs.Generation.Entries

/-!
# What is drawn is in the template

Putting something under a name that is in use replaces what was there, and generated roles are put
while nodes are still to come.  `Template.Draws` says that nothing is lost by that: the resources of
a template are those of the nodes and the generated roles, each under an id of its own.  The
template of a list of nodes with distinct ids is of this kind (`draws_generate`), whatever their
attributes, and whether or not their ids look like those of generated roles.
-/

namespace CloudTemplate

variable {nodes : List Node}

/-- A template has one resource for every node of a supported kind and one role for every function
that names none, and nothing else.  `roleId` tells the ids of the roles. -/
structure Template.Draws (nodes : List Node) (roleId : Node → String) (t : Template) : Prop where
  /-- There are no other resources. -/
  keys : t.resources.keys.Perm ((nodes.filter fun n => n.kind ≠ .unsupported).map Node.id ++
    (nodes.filter Node.needsRole).map roleId)
  /-- The resource of a node stands under its id and has the type of its kind. -/
  own : ∀ n ∈ nodes, n.kind ≠ .unsupported → ∃ type r, n.kind.type? = some type ∧
    t.resources.get? n.id = some r ∧ r.typeName = type.name
  /-- Under the id of a generated role stands a role. -/
  role : ∀ n ∈ nodes, n.needsRole = true →
    ∃ r, t.resources.get? (roleId n) = some r ∧ r.typeName = ResourceType.role.name
  /-- No node has the id of a generated role. -/
  notDrawn : ∀ n ∈ nodes, n.needsRole = true → roleId n ∉ nodes.map Node.id
  /-- No two functions have one generated role. -/
  apart : ∀ n ∈ nodes, ∀ m ∈ nodes, n.needsRole = true → m.needsRole = true →
    roleId n = roleId m → n = m
  /-- The function runs under its role and comes after it. -/
  runs : ∀ n ∈ nodes, n.needsRole = true → ∃ r, t.resources.get? n.id = some r ∧
    r.property? "Role" = some (.getAtt (roleId n) "Arn") ∧ roleId n ∈ r.dependsOn

lemma needsRole_eq_true_iff {n : Node} :
    n.needsRole = true ↔ n.kind = .lambda ∧ n.text? "roleArn" = none := by
  simp [Node.needsRole]

lemma flatMap_ite_singleton {α β : Type} (p : α → Prop) [DecidablePred p] (f : α → β)
    (items : List α) :
    (items.flatMap fun x => if p x then [f x] else []) = (items.filter (p ·)).map f := by
  induction items with
  | nil => rfl
  | cons x rest ih =>
    rw [List.flatMap_cons, ih]
    by_cases hx : p x <;> simp [hx]

namespace Laid

variable {s : Surroundings} {t : Template} {n : Node}

lemma keys_perm (h : Laid s nodes t) :
    t.resources.keys.Perm ((nodes.filter fun n => n.kind ≠ .unsupported).map Node.id ++
      (nodes.filter Node.needsRole).map s.roleId) := by
  have hkeys : t.resources.keys =
      nodes.flatMap fun n => Entries.keys (n.generatedRole s) ++ Entries.keys (n.ownResource s) := by
    rw [Table.keys, h.resources, Entries.keys, List.map_flatMap]
    refine List.flatMap_congr fun n _ => ?_
    exact Entries.keys_append _ _
  rw [hkeys]
  refine (List.flatMap_append_perm nodes _ _).symm.trans (List.perm_append_comm.trans ?_)
  simp only [Node.keys_ownResource, Node.keys_generatedRole]
  rw [flatMap_ite_singleton, flatMap_ite_singleton]
  simp

lemma get?_own (h : Laid s nodes t) (hn : n ∈ nodes) {r : Resource}
    (hr : n.resource? s (s.roleId n) = some r) : t.resources.get? n.id = some r := by
  rw [Table.get?_eq_some_iff, h.resources, List.mem_flatMap]
  refine ⟨n, hn, List.mem_append_right _ ?_⟩
  simp [Node.ownResource, hr]

lemma get?_role (h : Laid s nodes t) (hn : n ∈ nodes) (hneeds : n.needsRole = true) :
    t.resources.get? (s.roleId n) = some executionRole := by
  rw [Table.get?_eq_some_iff, h.resources, List.mem_flatMap]
  refine ⟨n, hn, List.mem_append_left _ ?_⟩
  simp [Node.generatedRole, hneeds]

end Laid

/-- A function that names no role runs under the generated one and comes after it. -/
lemma runs_functionResource {n : Node} (hneeds : n.needsRole = true) (roleId : String) :
    (functionResource roleId n).property? "Role" = some (.getAtt roleId "Arn") ∧
      roleId ∈ (functionResource roleId n).dependsOn := by
  have harn := (needsRole_eq_true_iff.mp hneeds).2
  constructor
  · simp [functionResource, Resource.underRole, harn, Resource.property?_dependOn,
      Resource.property?_set]
  · simp [functionResource, harn]

/-- Whatever the attributes, the template of nodes with distinct ids has their resources and the
roles of the functions that name none, under ids of their own, and nothing else. -/
theorem draws_generate (nodes : List Node) (hdistinct : (nodes.map Node.id).Nodup)
    (edges : List Edge) (name : String) (description : Option String) :
    (generate nodes edges name description).Draws nodes
      fun n => freeRoleId (nodes.map Node.id) n.id := by
  have hlaid := laid_generate hdistinct edges name description
  refine ⟨hlaid.keys_perm, ?_, ?_, ?_, ?_, ?_⟩
  · intro n hn hkind
    obtain ⟨r, hr⟩ := Node.exists_resource?_of_supported (.ofNodes nodes)
      ((Surroundings.ofNodes nodes).roleId n) hkind
    obtain ⟨type, htype, hname⟩ := typeName_of_resource? hr
    exact ⟨type, r, htype, hlaid.get?_own hn hr, hname⟩
  · intro n hn hneeds
    exact ⟨executionRole, hlaid.get?_role hn hneeds, rfl⟩
  · intro n hn hneeds
    exact freeRoleId_not_mem _ _
  · intro n hn m hm hneeds hneeds' hsame
    obtain ⟨j, hj⟩ := exists_roleCandidate (nodes.map Node.id) n.id
    obtain ⟨k, hk⟩ := exists_roleCandidate (nodes.map Node.id) m.id
    have hids : n.id = m.id := by
      apply eq_of_roleCandidate_eq
      rw [← hj, ← hk]
      exact hsame
    exact List.inj_on_of_nodup_map hdistinct hn hm hids
  · intro n hn hneeds
    have hr : n.resource? (.ofNodes nodes) ((Surroundings.ofNodes nodes).roleId n) =
        some (functionResource ((Surroundings.ofNodes nodes).roleId n) n) := by
      rw [Node.resource?, (needsRole_eq_true_iff.mp hneeds).1]
    exact ⟨_, hlaid.get?_own hn hr, runs_functionResource hneeds _⟩

/-- The generated role has the third candidate for its id, which is free. -/
theorem draws_generate_crowdedNodes :
    (crowdedNodes.map Node.id).Nodup ∧
      (generate crowdedNodes [] "" none).Draws crowdedNodes
        (fun n => freeRoleId (crowdedNodes.map Node.id) n.id) ∧
      freeRoleId (crowdedNodes.map Node.id) "fn" = "fnRole3" := by
  have hdistinct : (crowdedNodes.map Node.id).Nodup := by decide
  exact ⟨hdistinct, draws_generate crowdedNodes hdistinct [] "" none, by decide +kernel⟩

end CloudTemplate
