import CloudTemplate.Proofs.Generation.Content

/-!
# The last node of an id

Where nodes share an id, each puts its resource in the place of the one before, and the last of a
supported kind is left (`exists_get?_generate_of_last`).  What was there before matters no more: two
templates that differ in that resource alone become equal when the next one of its id is put
(`Template.AgreeBut.foldl_eq`).
-/

namespace CloudTemplate

variable {s : Surroundings} {t u : Template} {n m : Node} {id : String}

/-! ## What is left of a node -/

/-- Nodes with other ids, and nodes without a resource, leave a drawn id alone. -/
lemma get?_addNode_of_ne (hid : id ∈ s.ids) (h : m.kind ≠ .unsupported → m.id ≠ id) :
    (addNode s t m).resources.get? id = t.resources.get? id := by
  have hrole : id ≠ roleIdFor s t m := by
    rintro rfl
    exact roleIdFor_not_mem s t m (List.mem_append_left _ hid)
  have hwithRole : (withRole s t m).get? id = t.resources.get? id := by
    unfold withRole
    split
    · exact Table.get?_insert_of_ne _ _ hrole
    · rfl
  rw [addNode_eq, ← hwithRole]
  show (withOwn s t m).get? id = _
  unfold withOwn
  cases hown : m.resource? s (roleIdFor s t m) with
  | none => rfl
  | some r =>
    refine Table.get?_insert_of_ne _ _ (h ?_).symm
    intro hkind
    rw [Node.resource?_of_unsupported hkind] at hown
    exact absurd hown nofun

lemma get?_foldl_addNode_of_ne (hid : id ∈ s.ids) {nodes : List Node}
    (h : ∀ m ∈ nodes, m.kind ≠ .unsupported → m.id ≠ id) (t : Template) :
    (nodes.foldl (addNode s) t).resources.get? id = t.resources.get? id := by
  induction nodes generalizing t with
  | nil => rfl
  | cons m more ih =>
    obtain ⟨hm, hmore⟩ := List.forall_mem_cons.mp h
    rw [List.foldl_cons, ih hmore, get?_addNode_of_ne hid hm]

lemma get?_addNode_self {r : Resource} (hr : n.resource? s (roleIdFor s t n) = some r) :
    (addNode s t n).resources.get? n.id = some r := by
  rw [addNode_eq]
  show (withOwn s t n).get? n.id = _
  rw [withOwn, hr, Table.get?_insert_self]

/-- Nodes that do not differ in what others see of them are added to one template. -/
lemma exists_generate_eq (before after : List Node) (n : Node) (edges : List Edge) (name : String)
    (description : Option String) : ∃ t, ∀ m,
      Surroundings.ofNodes (before ++ m :: after) = .ofNodes (before ++ n :: after) →
        generate (before ++ m :: after) edges name description =
          after.foldl (addNode (.ofNodes (before ++ n :: after)))
            (addNode (.ofNodes (before ++ n :: after)) t m) := by
  refine ⟨before.foldl (addNode (.ofNodes (before ++ n :: after)))
    (.withDescription (description.getD (defaultDescription name))), fun m hm => ?_⟩
  rw [generate, hm, List.foldl_append, List.foldl_cons]

/-- Under an id stands the resource of the last node with that id. -/
lemma exists_get?_generate_of_last (before after : List Node) (n : Node)
    (hkind : n.kind ≠ .unsupported) (hlast : ∀ m ∈ after, m.kind ≠ .unsupported → m.id ≠ n.id)
    (edges : List Edge) (name : String) (description : Option String) :
    ∃ roleId r, n.resource? (.ofNodes (before ++ n :: after)) roleId = some r ∧
      (generate (before ++ n :: after) edges name description).resources.get? n.id = some r := by
  have hid : n.id ∈ (Surroundings.ofNodes (before ++ n :: after)).ids :=
    List.mem_map_of_mem (by simp)
  obtain ⟨t, ht⟩ := exists_generate_eq before after n edges name description
  obtain ⟨r, hr⟩ := Node.exists_resource?_of_supported (.ofNodes (before ++ n :: after))
    (roleIdFor (.ofNodes (before ++ n :: after)) t n) hkind
  refine ⟨_, r, hr, ?_⟩
  rw [ht n rfl, get?_foldl_addNode_of_ne hid hlast, get?_addNode_self hr]

/-! ## What was there before -/

/-- Two templates differ at most in the resource under an id. -/
structure Template.AgreeBut (id : String) (t u : Template) : Prop where
  rest : u = { t with resources := u.resources }
  resources : t.resources.AgreeBut id u.resources

/-- Of two nodes with one id and one kind, which both need a role or both do not, it matters only to
their own resource which of them is drawn. -/
lemma agreeBut_addNode (hid : m.id = n.id) (hkind : m.kind = n.kind)
    (hneeds : m.needsRole = n.needsRole) : (addNode s t m).AgreeBut n.id (addNode s t n) := by
  have hroleId : roleIdFor s t m = roleIdFor s t n := by rw [roleIdFor, roleIdFor, hid]
  have hwithRole : withRole s t m = withRole s t n := by rw [withRole, withRole, hneeds, hroleId]
  have hwithOutput : withOutput t m = withOutput t n := by
    rw [withOutput, withOutput, Node.output?, Node.output?, hkind, hid]
  rw [addNode_eq, addNode_eq, hwithOutput]
  refine ⟨rfl, ?_⟩
  show (withOwn s t m).AgreeBut n.id (withOwn s t n)
  unfold withOwn
  rw [hwithRole, hroleId, hid]
  by_cases hsupported : n.kind = .unsupported
  · rw [Node.resource?_of_unsupported hsupported,
      Node.resource?_of_unsupported (hkind.trans hsupported)]
    exact ⟨rfl, fun _ _ => rfl⟩
  · obtain ⟨r, hr⟩ := Node.exists_resource?_of_supported s (roleIdFor s t n) hsupported
    obtain ⟨r', hr'⟩ := Node.exists_resource?_of_supported s (roleIdFor s t n) (hkind ▸ hsupported)
    rw [hr, hr']
    exact Table.agreeBut_insert _ _ _ _

namespace Template.AgreeBut

lemma roleIdFor_eq (h : t.AgreeBut id u) (m : Node) : roleIdFor s t m = roleIdFor s u m := by
  rw [roleIdFor, roleIdFor, h.resources.keys]

lemma withRole (h : t.AgreeBut id u) (m : Node) :
    (withRole s t m).AgreeBut id (withRole s u m) := by
  unfold CloudTemplate.withRole
  rw [h.roleIdFor_eq]
  split
  · exact h.resources.insert _ _
  · exact h.resources

lemma addNode (h : t.AgreeBut id u) (m : Node) :
    (addNode s t m).AgreeBut id (addNode s u m) := by
  rw [addNode_eq, addNode_eq]
  refine ⟨?_, ?_⟩
  · rw [h.rest]
    rfl
  · show (withOwn s t m).AgreeBut id (withOwn s u m)
    unfold withOwn
    rw [h.roleIdFor_eq]
    cases m.resource? s (roleIdFor s u m) with
    | none => exact h.withRole m
    | some r => exact (h.withRole m).insert m.id r

/-- The next node with that id makes them equal. -/
lemma addNode_eq_of_id (h : t.AgreeBut m.id u) (hkind : m.kind ≠ .unsupported) :
    CloudTemplate.addNode s t m = CloudTemplate.addNode s u m := by
  obtain ⟨r, hr⟩ := Node.exists_resource?_of_supported s (roleIdFor s u m) hkind
  have hown : withOwn s t m = withOwn s u m := by
    rw [withOwn, withOwn, h.roleIdFor_eq, hr]
    exact (h.withRole m).insert_self r
  rw [CloudTemplate.addNode_eq, CloudTemplate.addNode_eq, hown, h.rest]
  rfl

lemma foldl (h : t.AgreeBut id u) (nodes : List Node) :
    (nodes.foldl (CloudTemplate.addNode s) t).AgreeBut id
      (nodes.foldl (CloudTemplate.addNode s) u) := by
  induction nodes generalizing t u with
  | nil => exact h
  | cons m more ih => exact ih (h.addNode m)

lemma foldl_eq (h : t.AgreeBut id u) {nodes : List Node}
    (hreplaced : ∃ m ∈ nodes, m.kind ≠ .unsupported ∧ m.id = id) :
    nodes.foldl (CloudTemplate.addNode s) t = nodes.foldl (CloudTemplate.addNode s) u := by
  obtain ⟨m, hm, hkind, rfl⟩ := hreplaced
  obtain ⟨front, back, rfl⟩ := List.append_of_mem hm
  rw [List.foldl_append, List.foldl_append, List.foldl_cons, List.foldl_cons,
    (h.foldl front).addNode_eq_of_id hkind]

end Template.AgreeBut

end CloudTemplate
