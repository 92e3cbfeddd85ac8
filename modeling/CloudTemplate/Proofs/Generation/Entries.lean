import CloudTemplate.Proofs.Generation.Content

/-!
# The entries of a generated template

If no two nodes share an id, generation never puts anything in the place of something else, and the
template can be told without following the nodes one after the other: its resources are those of
the nodes in their order, each function without a role behind the one generated for it
(`laid_generate`).  What a node contributes (`Node.entries`) depends on the ids of the drawing
and on its networks, and no longer on what was emitted before.

Two facts about names carry this.  The candidates for the role of one function are never candidates
for another's, whatever the ids (`eq_of_roleCandidate_eq`), so the roles generated earlier do not
stand in the way of the search.  And the name of an output tells the node: what stands behind the id
ends in another letter for each of the four endings (`Node.id_eq_of_output?`).

That the order of the nodes is of no consequence, and that nothing drawn is lost, are read off this
in `Generation/NodeOrder` and `Generation/Drawn`.
-/

namespace CloudTemplate

/-! ## What a node contributes -/

/-- The id of the role generated for a node: the first candidate that is not the id of a node. -/
def Surroundings.roleId (s : Surroundings) (n : Node) : String := freeRoleId s.ids n.id

namespace Node

/-- The role generated for a node, with its id. -/
def generatedRole (s : Surroundings) (n : Node) : Entries Resource :=
  if n.needsRole then [(s.roleId n, executionRole)] else []

/-- The resource of a node, with its id. -/
def ownResource (s : Surroundings) (n : Node) : Entries Resource :=
  ((n.resource? s (s.roleId n)).map (Prod.mk n.id)).toList

/-- The resources that a node brings into a template. -/
def entries (s : Surroundings) (n : Node) : Entries Resource :=
  n.generatedRole s ++ n.ownResource s

variable {s : Surroundings} {n m : Node} {id : String}

lemma keys_generatedRole (s : Surroundings) (n : Node) :
    Entries.keys (n.generatedRole s) = if n.needsRole then [s.roleId n] else [] := by
  unfold generatedRole
  split <;> rfl

lemma keys_ownResource (s : Surroundings) (n : Node) :
    Entries.keys (n.ownResource s) = if n.kind ≠ .unsupported then [n.id] else [] := by
  unfold ownResource
  by_cases hkind : n.kind = .unsupported
  · rw [resource?_of_unsupported hkind, if_neg (by simp [hkind])]
    rfl
  · obtain ⟨r, hr⟩ := exists_resource?_of_supported s (s.roleId n) hkind
    rw [hr, if_pos hkind]
    rfl

lemma mem_keys_entries_iff : id ∈ Entries.keys (n.entries s) ↔
    (n.needsRole = true ∧ id = s.roleId n) ∨ n.kind ≠ .unsupported ∧ id = n.id := by
  rw [entries, Entries.keys_append, List.mem_append, keys_generatedRole, keys_ownResource]
  simp only [List.mem_ite_nil_right, List.mem_singleton]

/-! ## Names of outputs -/

/-- The name of an output is the id of its node and one of four endings. -/
lemma exists_ending_of_output? {name : String} {o : Output} (h : n.output? = some (name, o)) :
    ∃ ending ∈ ["Id", "Name", "Arn", "Url"], name = n.id ++ ending := by
  unfold output? at h
  cases hkind : n.kind <;>
    simp only [hkind, Option.some.injEq, Prod.mk.injEq, reduceCtorEq] at h <;>
    exact ⟨_, by simp, h.1.symm⟩

/-- Nodes whose outputs have one name have one id. -/
lemma id_eq_of_output? {name : String} {o o' : Output} (h : n.output? = some (name, o))
    (h' : m.output? = some (name, o')) : n.id = m.id := by
  obtain ⟨ending, hending, hname⟩ := exists_ending_of_output? h
  obtain ⟨other, hother, hname'⟩ := exists_ending_of_output? h'
  have hlists : n.id.toList ++ ending.toList = m.id.toList ++ other.toList := by
    rw [← String.toList_append, ← String.toList_append, ← hname, ← hname']
  -- The last letters agree, and they tell the endings apart.
  have hlast := congrArg List.getLast? hlists
  have hsame : ending = other := by
    simp only [List.mem_cons, List.not_mem_nil, or_false] at hending hother
    rcases hending with rfl | rfl | rfl | rfl <;> rcases hother with rfl | rfl | rfl | rfl <;>
      first
      | rfl
      | (rw [List.getLast?_append_of_ne_nil _ (by decide),
          List.getLast?_append_of_ne_nil _ (by decide)] at hlast
         exact absurd hlast (by decide))
  rw [hsame] at hlists
  exact String.toList_inj.mp (List.append_cancel_right hlists)

end Node

/-! ## Adding nodes one after the other -/

/-- A template has been made of some nodes without anything being replaced. -/
structure Laid (s : Surroundings) (nodes : List Node) (t : Template) : Prop where
  resources : t.resources.entries = nodes.flatMap (Node.entries s)
  outputs : t.outputs.entries = nodes.filterMap Node.output?

namespace Laid

variable {s : Surroundings} {nodes : List Node} {t : Template} {n : Node} {id : String}

lemma mem_keys_iff (h : Laid s nodes t) : id ∈ t.resources.keys ↔
    ∃ m ∈ nodes, (m.needsRole = true ∧ id = s.roleId m) ∨ m.kind ≠ .unsupported ∧ id = m.id := by
  have hkeys : t.resources.keys = nodes.flatMap fun m => Entries.keys (m.entries s) := by
    rw [Table.keys, h.resources, Entries.keys, List.map_flatMap]
    rfl
  simp only [hkeys, List.mem_flatMap, Node.mem_keys_entries_iff]

/-- What was emitted for other nodes does not stand in the way of the search for a name. -/
lemma roleIdFor_eq (h : Laid s nodes t) (hids : ∀ m ∈ nodes, m.id ∈ s.ids)
    (hfresh : ∀ m ∈ nodes, m.id ≠ n.id) : roleIdFor s t n = s.roleId n := by
  apply freeRoleId_congr
  intro k
  constructor
  · intro hmem
    rcases List.mem_append.mp hmem with hdrawn | hkey
    · exact hdrawn
    · obtain ⟨m, hm, ⟨-, hrole⟩ | ⟨-, hown⟩⟩ := h.mem_keys_iff.mp hkey
      · -- A role of another node is a candidate for that node, and candidates tell the node.
        obtain ⟨j, hj⟩ := exists_roleCandidate s.ids m.id
        have hcandidates : roleCandidate m.id j = roleCandidate n.id k := by
          rw [hrole, Surroundings.roleId, hj]
        exact absurd (eq_of_roleCandidate_eq hcandidates) (hfresh m hm)
      · rw [hown]
        exact hids m hm
  · intro hdrawn
    exact List.mem_append_left _ hdrawn

/-- The id of a new node is not in use. -/
lemma id_not_mem_keys (h : Laid s nodes t) (hid : n.id ∈ s.ids)
    (hfresh : ∀ m ∈ nodes, m.id ≠ n.id) : n.id ∉ t.resources.keys := by
  intro hkey
  obtain ⟨m, hm, ⟨-, hrole⟩ | ⟨-, hown⟩⟩ := h.mem_keys_iff.mp hkey
  · have hfree : s.roleId m ∉ s.ids := freeRoleId_not_mem _ _
    rw [hrole] at hid
    exact hfree hid
  · exact hfresh m hm hown.symm

lemma roleId_not_mem (h : Laid s nodes t) (hids : ∀ m ∈ nodes, m.id ∈ s.ids)
    (hfresh : ∀ m ∈ nodes, m.id ≠ n.id) :
    s.roleId n ∉ s.ids ∧ s.roleId n ∉ t.resources.keys := by
  have hnew := roleIdFor_not_mem s t n
  rwa [h.roleIdFor_eq hids hfresh, List.mem_append, not_or] at hnew

lemma entries_withRole (h : Laid s nodes t) (hids : ∀ m ∈ nodes, m.id ∈ s.ids)
    (hfresh : ∀ m ∈ nodes, m.id ≠ n.id) :
    (withRole s t n).entries = t.resources.entries ++ n.generatedRole s := by
  unfold withRole Node.generatedRole
  split
  · rw [h.roleIdFor_eq hids hfresh,
      Table.entries_insert_of_not_mem _ (h.roleId_not_mem hids hfresh).2]
  · rw [List.append_nil]

lemma entries_withOwn (h : Laid s nodes t) (hids : ∀ m ∈ nodes, m.id ∈ s.ids) (hid : n.id ∈ s.ids)
    (hfresh : ∀ m ∈ nodes, m.id ≠ n.id) :
    (withOwn s t n).entries = (withRole s t n).entries ++ n.ownResource s := by
  have hrole := h.roleIdFor_eq hids hfresh
  have hnew : n.id ∉ (withRole s t n).keys := by
    rw [mem_keys_withRole_iff, hrole]
    rintro (hold | ⟨-, hsame⟩)
    · exact h.id_not_mem_keys hid hfresh hold
    · exact (h.roleId_not_mem hids hfresh).1 (hsame ▸ hid)
  unfold withOwn Node.ownResource
  rw [hrole]
  cases n.resource? s (s.roleId n) with
  | none => simp
  | some r => exact Table.entries_insert_of_not_mem r hnew

lemma entries_withOutput (h : Laid s nodes t) (hfresh : ∀ m ∈ nodes, m.id ≠ n.id) :
    (withOutput t n).entries = t.outputs.entries ++ n.output?.toList := by
  unfold withOutput
  cases houtput : n.output? with
  | none => simp
  | some named =>
    obtain ⟨name, o⟩ := named
    apply Table.entries_insert_of_not_mem
    intro hkey
    obtain ⟨o', hmem⟩ := Entries.exists_mem_of_mem_keys hkey
    rw [h.outputs, List.mem_filterMap] at hmem
    obtain ⟨m, hm, hown⟩ := hmem
    exact hfresh m hm (Node.id_eq_of_output? hown houtput)

lemma addNode (h : Laid s nodes t) (hids : ∀ m ∈ nodes, m.id ∈ s.ids) (hid : n.id ∈ s.ids)
    (hfresh : ∀ m ∈ nodes, m.id ≠ n.id) : Laid s (nodes ++ [n]) (addNode s t n) := by
  rw [addNode_eq]
  constructor
  · show (withOwn s t n).entries = _
    rw [h.entries_withOwn hids hid hfresh, h.entries_withRole hids hfresh, h.resources,
      List.flatMap_append, List.flatMap_singleton, Node.entries, List.append_assoc]
  · show (withOutput t n).entries = _
    rw [h.entries_withOutput hfresh, h.outputs, List.filterMap_append]
    cases houtput : n.output? <;> simp [houtput]

lemma foldl (h : Laid s nodes t) {more : List Node}
    (hids : ∀ m ∈ nodes ++ more, m.id ∈ s.ids) (hdistinct : ((nodes ++ more).map Node.id).Nodup) :
    Laid s (nodes ++ more) (more.foldl (CloudTemplate.addNode s) t) := by
  induction more generalizing nodes t with
  | nil => rwa [List.append_nil]
  | cons n more ih =>
    have hfresh : ∀ m ∈ nodes, m.id ≠ n.id := by
      intro m hm hsame
      rw [List.map_append, List.nodup_append] at hdistinct
      exact hdistinct.2.2 m.id (List.mem_map_of_mem hm) n.id (by simp) hsame
    have hstep := h.addNode (fun m hm => hids m (List.mem_append_left _ hm)) (hids n (by simp))
      hfresh
    rw [List.append_cons] at hids hdistinct ⊢
    exact ih hstep hids hdistinct

end Laid

variable {nodes : List Node}

/-- The template of nodes with distinct ids holds what each node contributes, in their order. -/
lemma laid_generate (hdistinct : (nodes.map Node.id).Nodup) (edges : List Edge) (name : String)
    (description : Option String) :
    Laid (.ofNodes nodes) nodes (generate nodes edges name description) := by
  have hstart : Laid (.ofNodes nodes) [] (.withDescription
      (description.getD (defaultDescription name))) := ⟨rfl, rfl⟩
  have hids : ∀ m ∈ nodes, m.id ∈ (Surroundings.ofNodes nodes).ids := by
    intro m hm
    exact List.mem_map_of_mem hm
  exact hstart.foldl hids hdistinct

/-- A function whose first two candidates are drawn, and a subnet in the only network. -/
def crowdedNodes : List Node :=
  [⟨"fn", .lambda, .empty⟩, ⟨"fnRole", .iamRole, .empty⟩, ⟨"fnRole2", .unsupported, .empty⟩,
    ⟨"zone", .subnet, .empty⟩, ⟨"net", .vpc, .empty⟩]

example : (generate crowdedNodes [] "" none).resources.keys =
    ["fnRole3", "fn", "fnRole", "zone", "net"] := by
  decide +kernel

end CloudTemplate
