import CloudTemplate.Generation.Generate
import CloudTemplate.Proofs.Generation.RoleName
import CloudTemplate.Proofs.Table

/-!
# What a generated template contains

`Emitted` is the invariant of generation: every resource is that of a node or a generated role under
an id of its own, every node of a supported kind has its resource, and every output is that of a
node.  Adding a node keeps it (`Emitted.addNode`), whatever the ids of the nodes, so the template of
a graph satisfies it for all nodes of the graph (`emitted_template`).
-/

namespace CloudTemplate

namespace Node

variable {n : Node} {s : Surroundings} {roleId : String}

lemma exists_resource?_of_supported (s : Surroundings) (roleId : String)
    (h : n.kind ≠ .unsupported) : ∃ r, n.resource? s roleId = some r := by
  unfold resource?
  cases hkind : n.kind with
  | unsupported => exact absurd hkind h
  | _ => exact ⟨_, rfl⟩

lemma resource?_of_unsupported (h : n.kind = .unsupported) : n.resource? s roleId = none := by
  rw [resource?, h]

end Node

variable {s : Surroundings} {t : Template} {n : Node} {id : String}

/-! ## Adding a node -/

lemma roleIdFor_not_mem (s : Surroundings) (t : Template) (n : Node) :
    roleIdFor s t n ∉ s.ids ++ t.resources.keys :=
  freeRoleId_not_mem _ _

/-- The resources of a template and the role that is generated for a node. -/
def withRole (s : Surroundings) (t : Template) (n : Node) : Table Resource :=
  if n.needsRole then t.resources.insert (roleIdFor s t n) executionRole else t.resources

/-- The resources of a template, the role that is generated for a node, and that of the node. -/
def withOwn (s : Surroundings) (t : Template) (n : Node) : Table Resource :=
  match n.resource? s (roleIdFor s t n) with
  | some r => (withRole s t n).insert n.id r
  | none => withRole s t n

/-- The outputs of a template and that of a node. -/
def withOutput (t : Template) (n : Node) : Table Output :=
  match n.output? with
  | some (name, o) => t.outputs.insert name o
  | none => t.outputs

lemma addNode_eq (s : Surroundings) (t : Template) (n : Node) :
    addNode s t n = { t with resources := withOwn s t n, outputs := withOutput t n } := by
  unfold addNode withOwn withRole withOutput
  dsimp only
  cases n.output? <;> cases n.resource? s (roleIdFor s t n) <;> cases n.needsRole <;> rfl

lemma mem_entries_withRole {r : Resource} (h : (id, r) ∈ (withRole s t n).entries) :
    (n.needsRole = true ∧ id = roleIdFor s t n ∧ r = executionRole) ∨
      (id, r) ∈ t.resources.entries := by
  unfold withRole at h
  split at h
  · next hneeds =>
    rcases Table.mem_entries_insert_iff.mp h with ⟨hid, hr⟩ | ⟨-, hold⟩
    · exact .inl ⟨hneeds, hid, hr⟩
    · exact .inr hold
  · exact .inr h

lemma mem_keys_withRole_iff : id ∈ (withRole s t n).keys ↔
    id ∈ t.resources.keys ∨ n.needsRole = true ∧ id = roleIdFor s t n := by
  unfold withRole
  split
  · next hneeds => simp [Table.mem_keys_insert_iff, hneeds]
  · next hneeds => simp [hneeds]

/-- A resource after a node was added is that of the node, the role generated for it, or was there
before. -/
lemma mem_entries_addNode {r : Resource} (h : (id, r) ∈ (addNode s t n).resources.entries) :
    (id = n.id ∧ n.resource? s (roleIdFor s t n) = some r) ∨
      (n.needsRole = true ∧ id = roleIdFor s t n ∧ r = executionRole) ∨
      (id, r) ∈ t.resources.entries := by
  rw [addNode_eq, withOwn] at h
  cases hown : n.resource? s (roleIdFor s t n) with
  | none =>
    rw [hown] at h
    exact .inr (mem_entries_withRole h)
  | some own =>
    rw [hown] at h
    rcases Table.mem_entries_insert_iff.mp h with ⟨hid, rfl⟩ | ⟨-, hold⟩
    · exact .inl ⟨hid, rfl⟩
    · exact .inr (mem_entries_withRole hold)

lemma mem_keys_addNode_iff : id ∈ (addNode s t n).resources.keys ↔
    id ∈ t.resources.keys ∨ (n.needsRole = true ∧ id = roleIdFor s t n) ∨
      n.kind ≠ .unsupported ∧ id = n.id := by
  rw [addNode_eq, withOwn]
  by_cases hkind : n.kind = .unsupported
  · simp [Node.resource?_of_unsupported hkind, mem_keys_withRole_iff, hkind]
  · obtain ⟨r, hr⟩ := Node.exists_resource?_of_supported s (roleIdFor s t n) hkind
    simp [hr, Table.mem_keys_insert_iff, mem_keys_withRole_iff, hkind, or_assoc]

lemma mem_outputs_addNode {name : String} {o : Output}
    (h : (name, o) ∈ (addNode s t n).outputs.entries) :
    n.output? = some (name, o) ∨ (name, o) ∈ t.outputs.entries := by
  rw [addNode_eq, withOutput] at h
  cases hown : n.output? with
  | none =>
    rw [hown] at h
    exact .inr h
  | some own =>
    rw [hown] at h
    rcases Table.mem_entries_insert_iff.mp h with ⟨rfl, rfl⟩ | ⟨-, hold⟩
    · exact .inl rfl
    · exact .inr hold

/-! ## Adding all nodes -/

/-- A resource is that of a node.  A function that names no role has one of its own. -/
def IsOwn (s : Surroundings) (t : Template) (n : Node) (r : Resource) : Prop :=
  ∃ roleId, n.resource? s roleId = some r ∧
    (n.needsRole = true → roleId ∈ t.resources.keys ∧ roleId ∉ s.ids)

/-- What the template of some nodes contains. -/
structure Emitted (s : Surroundings) (nodes : List Node) (t : Template) : Prop where
  origin : ∀ id r, (id, r) ∈ t.resources.entries →
    (∃ n ∈ nodes, n.id = id ∧ IsOwn s t n r) ∨
      r = executionRole ∧ id ∉ s.ids ∧ ∃ n ∈ nodes, ∃ m, id = roleCandidate n.id m
  present : ∀ n ∈ nodes, n.kind ≠ .unsupported → n.id ∈ t.resources.keys
  outputs : ∀ name o, (name, o) ∈ t.outputs.entries → ∃ n ∈ nodes, n.output? = some (name, o)

lemma emitted_withDescription (s : Surroundings) (description : String) :
    Emitted s [] (.withDescription description) where
  origin := fun _ _ h => absurd h List.not_mem_nil
  present := by simp
  outputs := fun _ _ h => absurd h List.not_mem_nil

lemma IsOwn.mono {t' : Template} {r : Resource} (hkeys : t.resources.keys ⊆ t'.resources.keys)
    (h : IsOwn s t n r) : IsOwn s t' n r := by
  obtain ⟨roleId, hr, hrole⟩ := h
  exact ⟨roleId, hr, fun hneeds => ⟨hkeys (hrole hneeds).1, (hrole hneeds).2⟩⟩

lemma Emitted.addNode {nodes : List Node} (h : Emitted s nodes t) (n : Node) :
    Emitted s (nodes ++ [n]) (addNode s t n) := by
  have hkeys : t.resources.keys ⊆ (CloudTemplate.addNode s t n).resources.keys :=
    fun id hid => mem_keys_addNode_iff.mpr (.inl hid)
  have hfree := roleIdFor_not_mem s t n
  rw [List.mem_append, not_or] at hfree
  refine ⟨fun id r hmem => ?_, fun m hm hkind => ?_, fun name o hmem => ?_⟩
  · rcases mem_entries_addNode hmem with ⟨rfl, hown⟩ | ⟨-, rfl, rfl⟩ | hold
    · refine .inl ⟨n, by simp, rfl, roleIdFor s t n, hown, fun hneeds => ⟨?_, hfree.1⟩⟩
      exact mem_keys_addNode_iff.mpr (.inr (.inl ⟨hneeds, rfl⟩))
    · exact .inr ⟨rfl, hfree.1, n, by simp, exists_roleCandidate _ _⟩
    · rcases h.origin id r hold with ⟨m, hm, hid, hown⟩ | ⟨hr, hid, m, hm, hcandidate⟩
      · exact .inl ⟨m, List.mem_append_left _ hm, hid, hown.mono hkeys⟩
      · exact .inr ⟨hr, hid, m, List.mem_append_left _ hm, hcandidate⟩
  · rcases List.mem_append.mp hm with hm | hm
    · exact hkeys (h.present m hm hkind)
    · obtain rfl := List.mem_singleton.mp hm
      exact mem_keys_addNode_iff.mpr (.inr (.inr ⟨hkind, rfl⟩))
  · rcases mem_outputs_addNode hmem with hown | hold
    · exact ⟨n, by simp, hown⟩
    · obtain ⟨m, hm, hown⟩ := h.outputs name o hold
      exact ⟨m, List.mem_append_left _ hm, hown⟩

lemma Emitted.foldl {nodes : List Node} (h : Emitted s nodes t) (more : List Node) :
    Emitted s (nodes ++ more) (more.foldl (CloudTemplate.addNode s) t) := by
  induction more generalizing nodes t with
  | nil => rwa [List.append_nil]
  | cons n more ih =>
    rw [List.foldl_cons, List.append_cons]
    exact ih (h.addNode n)

lemma emitted_template (g : Graph) : Emitted (.ofNodes g.nodes) g.nodes g.template :=
  (emitted_withDescription _ _).foldl g.nodes

/-- Adding nodes changes nothing but the resources and the outputs. -/
lemma foldl_addNode_eq (s : Surroundings) (nodes : List Node) (t : Template) :
    nodes.foldl (addNode s) t = { t with
      resources := (nodes.foldl (addNode s) t).resources
      outputs := (nodes.foldl (addNode s) t).outputs } := by
  induction nodes generalizing t with
  | nil => rfl
  | cons n more ih =>
    rw [List.foldl_cons, addNode_eq]
    exact ih _

lemma head_template (g : Graph) : g.template.formatVersion = formatVersion ∧
    g.template.description = g.description.getD (defaultDescription g.name) := by
  have hhead := foldl_addNode_eq (.ofNodes g.nodes) g.nodes
    (.withDescription (g.description.getD (defaultDescription g.name)))
  exact ⟨congrArg Template.formatVersion hhead, congrArg Template.description hhead⟩

end CloudTemplate
