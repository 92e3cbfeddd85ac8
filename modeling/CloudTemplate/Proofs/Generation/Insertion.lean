import CloudTemplate.Proofs.Generation.Drawn
import CloudTemplate.Proofs.Generation.NodeOrder

/-!
# Drawing one more node

Nodes see each other in two ways: the ids of all of them are kept from generated roles, and a node
without a network belongs to the only one.  So one more node could turn up in the resources of
others.  It does not, if it is no network and its id is in use neither by a node nor by a resource:
what the others contribute stays the same (`entries_ofNodes_insert`), and the template gains what
the new node contributes and nothing else (`generate_gains`), wherever in the drawing it stands.

The id of the new node may well look like that of a role which might have been generated for
another.  That role has its name already, and the search for it comes to the same end with one more
id in use.  In the other direction, the role of the new node cannot take the name of another role,
because no two functions share a candidate.
-/

namespace CloudTemplate

/-- A template has all that another one has, in the same order, and beside it the resource of a
node, its output, and the role generated for it, which has a given id. -/
structure Template.Gains (n : Node) (roleId : String) (t t' : Template) : Prop where
  /-- The rest of the template is the same. -/
  rest : t' = { t with resources := t'.resources, outputs := t'.outputs }
  /-- Every resource is still there under its id, and unchanged. -/
  resources : t.resources.entries.Sublist t'.resources.entries
  /-- Every output is still there under its name, and unchanged. -/
  outputs : t.outputs.entries.Sublist t'.outputs.entries
  /-- The only new ids are that of the node and that of its role. -/
  newIds : t'.resources.keys.Perm (t.resources.keys ++
    ((if n.needsRole then [roleId] else []) ++ if n.kind ≠ .unsupported then [n.id] else []))
  /-- The only new name is that of the output of the node. -/
  newNames : t'.outputs.keys.Perm (t.outputs.keys ++ n.output?.toList.map Prod.fst)
  /-- The node runs under its role. -/
  role : n.needsRole = true → t'.resources.get? roleId = some executionRole ∧
    ∃ r, t'.resources.get? n.id = some r ∧ r.property? "Role" = some (.getAtt roleId "Arn")

variable {before after : List Node} {n m : Node}

/-! ## What the others contribute -/

lemma vpcOf?_ofNodes_insert (h : n.kind ≠ .vpc) (m : Node) :
    (Surroundings.ofNodes (before ++ n :: after)).vpcOf? m =
      (Surroundings.ofNodes (before ++ after)).vpcOf? m := by
  have hkind : (n.kind == .vpc) = false := by simpa using h
  unfold Surroundings.vpcOf? Surroundings.ofNodes
  simp only [List.filter_append, List.filter_cons, hkind, Bool.false_eq_true, if_false]

/-- The resource of a node that needs no role does not depend on the id for one. -/
lemma resource?_eq_of_not_needsRole {s : Surroundings} (h : n.needsRole = false)
    (roleId other : String) : n.resource? s roleId = n.resource? s other := by
  unfold Node.resource?
  cases hkind : n.kind with
  | lambda =>
    have harn : (n.text? "roleArn").isSome = true := by simpa [Node.needsRole, hkind] using h
    obtain ⟨arn, harn⟩ := Option.isSome_iff_exists.mp harn
    simp only [functionResource, harn, Resource.underRole]
  | _ => rfl

lemma mem_ids_insert {id : String} : id ∈ (before ++ n :: after).map Node.id ↔
    id = n.id ∨ id ∈ (before ++ after).map Node.id := by
  rw [(List.perm_middle.map Node.id).mem_iff, List.map_cons, List.mem_cons]

/-- If no resource has the id of the new node, what another node contributes stays the same. -/
lemma entries_ofNodes_insert (hkind : n.kind ≠ .vpc)
    (hrole : m.needsRole = true → (Surroundings.ofNodes (before ++ after)).roleId m ≠ n.id) :
    m.entries (.ofNodes (before ++ n :: after)) = m.entries (.ofNodes (before ++ after)) := by
  have hsame : m.needsRole = true → (Surroundings.ofNodes (before ++ n :: after)).roleId m =
      (Surroundings.ofNodes (before ++ after)).roleId m := by
    intro hneeds
    apply freeRoleId_eq_of_subset
    · exact fun id hid => mem_ids_insert.mpr (.inr hid)
    · intro hmem
      rcases mem_ids_insert.mp hmem with hown | hdrawn
      · exact hrole hneeds hown
      · exact freeRoleId_not_mem _ _ hdrawn
  have hresource : ∀ roleId, m.resource? (.ofNodes (before ++ n :: after)) roleId =
      m.resource? (.ofNodes (before ++ after)) roleId :=
    resource?_congr (vpcOf?_ofNodes_insert hkind m)
  unfold Node.entries Node.generatedRole Node.ownResource
  cases hneeds : m.needsRole with
  | true => rw [hsame hneeds, hresource]
  | false =>
    rw [hresource, resource?_eq_of_not_needsRole hneeds]
    rfl

/-! ## What the template gains -/

lemma nodup_ids_insert (hdistinct : ((before ++ after).map Node.id).Nodup)
    (hfresh : n.id ∉ (before ++ after).map Node.id) :
    ((before ++ n :: after).map Node.id).Nodup := by
  rw [(List.perm_middle.map Node.id).nodup_iff, List.map_cons, List.nodup_cons]
  exact ⟨hfresh, hdistinct⟩

/-- The resources of the new node stand between those of the nodes before it and behind it. -/
lemma resources_generate_insert (hdistinct : ((before ++ after).map Node.id).Nodup)
    (hkind : n.kind ≠ .vpc) (hfresh : n.id ∉ (before ++ after).map Node.id) {edges : List Edge}
    {name : String} {description : Option String}
    (hunused : n.id ∉ (generate (before ++ after) edges name description).resources.keys) :
    ∃ front back,
      (generate (before ++ after) edges name description).resources.entries = front ++ back ∧
      (generate (before ++ n :: after) edges name description).resources.entries =
        front ++ (n.entries (.ofNodes (before ++ n :: after)) ++ back) := by
  have hlaid := laid_generate hdistinct edges name description
  have hlaid' := laid_generate (nodup_ids_insert hdistinct hfresh) edges name description
  -- The role of another node gives way to the new one only if it has the id of that node.
  have hothers : ∀ m ∈ before ++ after,
      m.entries (.ofNodes (before ++ n :: after)) = m.entries (.ofNodes (before ++ after)) := by
    intro m hm
    apply entries_ofNodes_insert hkind
    intro hneeds hsame
    exact hunused (hlaid.mem_keys_iff.mpr ⟨m, hm, .inl ⟨hneeds, hsame.symm⟩⟩)
  refine ⟨_, _, hlaid.resources.trans List.flatMap_append, ?_⟩
  rw [hlaid'.resources, List.flatMap_append, List.flatMap_cons,
    List.flatMap_congr fun m hm => hothers m (List.mem_append_left _ hm),
    List.flatMap_congr fun m hm => hothers m (List.mem_append_right _ hm)]

/-- The output of the new node stands between those of the nodes before it and behind it. -/
lemma outputs_generate_insert (hdistinct : ((before ++ after).map Node.id).Nodup)
    (hfresh : n.id ∉ (before ++ after).map Node.id) (edges : List Edge) (name : String)
    (description : Option String) :
    ∃ front back,
      (generate (before ++ after) edges name description).outputs.entries = front ++ back ∧
      (generate (before ++ n :: after) edges name description).outputs.entries =
        front ++ (n.output?.toList ++ back) := by
  have hlaid := laid_generate hdistinct edges name description
  have hlaid' := laid_generate (nodup_ids_insert hdistinct hfresh) edges name description
  refine ⟨_, _, hlaid.outputs.trans List.filterMap_append, ?_⟩
  rw [hlaid'.outputs, List.filterMap_append]
  cases houtput : n.output? <;> simp [houtput]

/-- Entries that are put in the middle are there, and nothing else has changed. -/
lemma Table.gained {α : Type} {t t' : Table α} {front own back : Entries α}
    (h : t.entries = front ++ back) (h' : t'.entries = front ++ (own ++ back)) :
    t.entries.Sublist t'.entries ∧ t'.keys.Perm (t.keys ++ Entries.keys own) := by
  constructor
  · rw [h, h']
    exact (List.sublist_append_right own back).append_left front
  · rw [Table.keys, Table.keys, h, h', Entries.keys_append, Entries.keys_append,
      Entries.keys_append, List.append_assoc]
    exact List.perm_append_comm.append_left _

/-- Drawing one more node, wherever it stands, leaves every resource and every output of the
template as it is and adds those of the node alone, if the node is no network and nothing has its
id. -/
theorem generate_gains (before after : List Node) (n : Node)
    (hdistinct : ((before ++ after).map Node.id).Nodup) (hkind : n.kind ≠ .vpc)
    (hfresh : n.id ∉ (before ++ after).map Node.id) (edges : List Edge) (name : String)
    (description : Option String)
    (hunused : n.id ∉ (generate (before ++ after) edges name description).resources.keys) :
    (generate (before ++ after) edges name description).Gains n
      (freeRoleId ((before ++ n :: after).map Node.id) n.id)
      (generate (before ++ n :: after) edges name description) := by
  have hlaid := laid_generate (nodup_ids_insert hdistinct hfresh) edges name description
  obtain ⟨_, _, hresources, hresources'⟩ :=
    resources_generate_insert hdistinct hkind hfresh hunused
  obtain ⟨_, _, houtputs, houtputs'⟩ :=
    outputs_generate_insert hdistinct hfresh edges name description
  obtain ⟨hkept, hids⟩ := Table.gained hresources hresources'
  obtain ⟨hkept', hnames⟩ := Table.gained houtputs houtputs'
  refine ⟨?rest, hkept, hkept', ?newIds, hnames, ?role⟩
  case rest =>
    have hrest := foldl_addNode_eq (.ofNodes (before ++ after)) (before ++ after)
      (.withDescription (description.getD (defaultDescription name)))
    have hrest' := foldl_addNode_eq (.ofNodes (before ++ n :: after)) (before ++ n :: after)
      (.withDescription (description.getD (defaultDescription name)))
    rw [generate, generate, hrest, hrest']
  case newIds =>
    rwa [Node.entries, Entries.keys_append, Node.keys_generatedRole, Node.keys_ownResource] at hids
  case role =>
    intro hneeds
    have hn : n ∈ before ++ n :: after := by simp
    have hr : n.resource? (.ofNodes (before ++ n :: after))
        ((Surroundings.ofNodes (before ++ n :: after)).roleId n) =
          some (functionResource ((Surroundings.ofNodes (before ++ n :: after)).roleId n) n) := by
      rw [Node.resource?, (needsRole_eq_true_iff.mp hneeds).1]
    exact ⟨hlaid.get?_role hn hneeds, _, hlaid.get?_own hn hr, (runs_functionResource hneeds _).1⟩

/-- A function, and a subnet in the only network. -/
def quietNodes : List Node :=
  [⟨"fnRole", .lambda, .empty⟩, ⟨"zone", .subnet, .empty⟩, ⟨"net", .vpc, .empty⟩]

/-- A function whose role would have the id of another function is drawn between the nodes.  Its
role has the second candidate for its id, and everything else is as it was. -/
theorem generate_gains_quietNodes :
    (quietNodes.map Node.id).Nodup ∧ "fn" ∉ quietNodes.map Node.id ∧
      "fn" ∉ (generate quietNodes [] "" none).resources.keys ∧
      (generate quietNodes [] "" none).Gains ⟨"fn", .lambda, .empty⟩ "fnRole2"
        (generate (quietNodes.take 1 ++ ⟨"fn", .lambda, .empty⟩ :: quietNodes.drop 1) [] "" none) ∧
      (generate quietNodes [] "" none).resources.keys = ["fnRoleRole", "fnRole", "zone", "net"] := by
  have hdistinct : (quietNodes.map Node.id).Nodup := by decide
  have hfresh : "fn" ∉ quietNodes.map Node.id := by decide
  have hkeys : (generate quietNodes [] "" none).resources.keys =
      ["fnRoleRole", "fnRole", "zone", "net"] := by
    decide +kernel
  have hunused : "fn" ∉ (generate quietNodes [] "" none).resources.keys := by
    rw [hkeys]
    decide
  have hrole : freeRoleId
      ((quietNodes.take 1 ++ ⟨"fn", .lambda, .empty⟩ :: quietNodes.drop 1).map Node.id) "fn" =
        "fnRole2" := by
    decide +kernel
  have hgains := generate_gains (quietNodes.take 1) (quietNodes.drop 1) ⟨"fn", .lambda, .empty⟩
    hdistinct (by decide) hfresh [] "" none hunused
  rw [hrole] at hgains
  exact ⟨hdistinct, hfresh, hunused, hgains, hkeys⟩

end CloudTemplate
