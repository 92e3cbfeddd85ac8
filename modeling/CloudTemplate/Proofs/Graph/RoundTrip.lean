import CloudTemplate.Proofs.Template.RoundTrip

/-!
# Graphs that are written and read

A graph is read from a text in the same way as a template.  The attributes of its nodes are property
values, so that in every graph which was read they are well named and unambiguous
(`Graph.sound_of_ofText`), and every graph with such attributes is read back from its text, unless
the text is too deep (`Graph.ofText_pretty_eq`).
-/

namespace CloudTemplate

/-- No map inside an attribute has a name twice or looks like a reference. -/
def Node.Sound (n : Node) : Prop :=
  ∀ key value, (key, value) ∈ n.attributes.entries → value.WellNamed ∧ value.Unambiguous

/-- The nodes of a graph are sound. -/
def Graph.Sound (g : Graph) : Prop := ∀ n ∈ g.nodes, n.Sound

variable {o : Outline} {form : Form}

/-! ## What is read -/

lemma Node.sound_of_read {n : Node} (h : (Node.record form).read form o = .ok n) : n.Sound := by
  refine Record.read_induction (P := Node.Sound) ?blank ?_ h
  case blank => exact Table.forall_mem_empty
  refine List.forall_mem_cons.mpr ⟨Field.keeps_map ?id, List.forall_mem_cons.mpr
    ⟨Field.keeps_map ?kind, List.forall_mem_singleton.mpr (Field.keeps_map ?attributes)⟩⟩
  case id => exact fun n o id hn _ => hn
  case kind => exact fun n o tag hn _ => hn
  case attributes =>
    intro n o attributes _ hread
    exact Outline.forall_of_asTable (fun _ _ => Outline.sound_of_asPropertyValue) hread

lemma Graph.sound_of_read {g : Graph} (h : (Graph.record form).read form o = .ok g) :
    g.Sound := by
  refine Record.read_induction (P := Graph.Sound) ?blank ?_ h
  case blank => exact fun _ hn => absurd hn List.not_mem_nil
  refine List.forall_mem_cons.mpr ⟨Field.keeps_map ?name, List.forall_mem_cons.mpr
    ⟨Field.keeps_map ?description, List.forall_mem_cons.mpr ⟨Field.keeps_map ?nodes,
      List.forall_mem_singleton.mpr (Field.keeps_map ?edges)⟩⟩⟩
  case name => exact fun g o name hg _ => hg
  case description => exact fun g o description hg _ => hg
  case nodes =>
    intro g o nodes _ hread
    exact Outline.forall_of_asList (fun _ _ => Node.sound_of_read) hread
  case edges => exact fun g o edges hg _ => hg

/-- Every graph that is read from a text is sound. -/
lemma Graph.sound_of_ofText {text : String} {g : Graph} (h : Graph.ofText text = .ok g) :
    g.Sound :=
  sound_of_read (readText_eq_ok h)

/-! ## Reading what was written -/

lemma NodeKind.ofTag_tag (kind : NodeKind) : NodeKind.ofTag kind.tag = kind := by
  cases kind <;> rfl

lemma Node.read_eq {n : Node} (h : o.Shows n.toJson) (hsound : n.Sound) :
    (Node.record form).read form o = .ok n := by
  obtain ⟨id, kind, attributes⟩ := n
  have hid : (Node.record form).Steps (Node.record form).blank [("id", .string id)]
      ⟨id, .unsupported, .empty⟩ :=
    .single rfl (fun _ => rfl) (fun o ho => ho.asText_eq) rfl
  have hkind : (Node.record form).Steps ⟨id, .unsupported, .empty⟩
      [("resourceType", .string kind.tag)] ⟨id, kind, .empty⟩ :=
    .single rfl (fun _ => rfl) (fun o ho => ho.asTag_eq) (by rw [NodeKind.ofTag_tag])
  have hattributes : (Node.record form).Steps ⟨id, kind, .empty⟩
      [("attributes", propertiesToJson attributes)] ⟨id, kind, attributes⟩ := by
    rw [propertiesToJson_eq]
    exact .single rfl (fun _ => rfl) (fun o ho => ho.asTable_eq fun name v hmem o ho =>
      ho.asPropertyValue_eq (hsound name v hmem).1 (hsound name v hmem).2) rfl
  exact Record.read_of_steps form ((hid.append hkind).append hattributes) h (by simp [Entries.keys])
    (by simp [Node.record, Entries.keys])

lemma Edge.read_eq {e : Edge} (h : o.Shows e.toJson) : Edge.record.read form o = .ok e := by
  have hsource : Edge.record.Steps Edge.record.blank [("source", .string e.source)]
      ⟨e.source, ""⟩ :=
    .single rfl (fun _ => rfl) (fun o ho => ho.asText_eq) rfl
  have htarget : Edge.record.Steps ⟨e.source, ""⟩ [("target", .string e.target)] e :=
    .single rfl (fun _ => rfl) (fun o ho => ho.asText_eq) rfl
  exact Record.read_of_steps form (hsource.append htarget) h (by simp [Entries.keys])
    (by simp [Edge.record, Entries.keys])

/-- A missing description is written as null. -/
lemma Graph.steps_description (form : Form) (name : String) (description : Option String) :
    (Graph.record form).Steps ⟨name, none, [], []⟩
      [("description", match description with
        | some description => .string description
        | none => .null)] ⟨name, description, [], []⟩ := by
  cases description with
  | none => exact .single rfl (fun _ => rfl) (fun o ho => ho.asOptional_null_eq) rfl
  | some description => exact .single rfl (fun _ => rfl) (fun o ho => ho.asOptional_asText_eq) rfl

lemma Graph.read_eq {g : Graph} (h : o.Shows g.toJson) (hsound : g.Sound) :
    (Graph.record form).read form o = .ok g := by
  obtain ⟨name, description, nodes, edges⟩ := g
  have hname : (Graph.record form).Steps (Graph.record form).blank [("name", .string name)]
      ⟨name, none, [], []⟩ :=
    .single rfl (fun _ => rfl) (fun o ho => ho.asText_eq) rfl
  have hdescription := steps_description form name description
  have hnodes : (Graph.record form).Steps ⟨name, description, [], []⟩
      [("nodes", .array (nodes.map Node.toJson))] ⟨name, description, nodes, []⟩ :=
    .single rfl (fun _ => rfl) (fun o ho => ho.asList_eq fun n hn o ho =>
      Node.read_eq ho (hsound n hn)) rfl
  have hedges : (Graph.record form).Steps ⟨name, description, nodes, []⟩
      [("edges", .array (edges.map Edge.toJson))] ⟨name, description, nodes, edges⟩ :=
    .single rfl (fun _ => rfl) (fun o ho => ho.asList_eq fun _ _ o ho => Edge.read_eq ho) rfl
  exact Record.read_of_steps form (((hname.append hdescription).append hnodes).append hedges) h
    (by simp [Entries.keys]) (by simp [Graph.record, Entries.keys])

/-- A graph is read back from its text. -/
lemma Graph.ofText_pretty_eq {g : Graph} (hsound : g.Sound)
    (hlevels : g.toJson.levels ≤ levelLimit) : Graph.ofText g.toJson.pretty = .ok g := by
  obtain ⟨o, houtline, hshows⟩ := Outline.shows_ofText_pretty hlevels
  rw [Graph.ofText, readText, houtline]
  simp only [Graph.read_eq hshows hsound]

end CloudTemplate
