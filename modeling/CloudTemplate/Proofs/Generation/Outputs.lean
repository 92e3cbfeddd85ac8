import CloudTemplate.Proofs.Generation.Drawn
import CloudTemplate.Proofs.Validation.Unresolved

/-!
# What is shown

For seven kinds of nodes the template has an output that shows how to reach the resource of the
node.  `Template.Shows` says that nothing is missing, lost or led astray: there is one output for
each such node, under a name of its own, it refers to the resource of that very node, and there are
no other outputs.

Two things could go wrong.  The name of an output is the id of its node with an ending, and outputs
with one name replace each other; but the endings differ in their last letters, so that a name tells
the id (`Node.id_eq_of_output?`).  And the resource to which an output refers could be replaced; but
what replaces it stands under the same id, so that the output leads somewhere also where nodes share
an id (`resolves_of_mem_outputs`).
-/

namespace CloudTemplate

/-- A value refers to the resource with an id or to one of its attributes. -/
inductive PropertyValue.PointsTo (id : String) : PropertyValue → Prop
  | ref : PointsTo id (.ref id)
  | getAtt (name) : PointsTo id (.getAtt id name)

lemma PropertyValue.PointsTo.target_eq {id : String} {v : PropertyValue} (h : v.PointsTo id)
    {reference : Reference} (hmentions : v.Mentions reference) : reference.target = id := by
  cases h <;> cases hmentions <;> rfl

namespace NodeKind

/-- The kinds whose resources are shown in outputs. -/
def shown : List NodeKind := [.vpc, .s3, .lambda, .dynamodb, .apiGateway, .sns, .sqs]

/-- What is shown of a resource: its name, its ARN, its URL, or else its id. -/
def ending : NodeKind → String
  | .s3 | .dynamodb => "Name"
  | .lambda | .sns => "Arn"
  | .sqs => "Url"
  | _ => "Id"

end NodeKind

/-! ## The output of a node -/

namespace Node

variable {n : Node}

/-- The name of the output that shows the resource of a node. -/
def outputName (n : Node) : String := n.id ++ n.kind.ending

/-- A node of a kind that is shown has an output, which points to the resource of the node. -/
lemma exists_output?_of_shown (h : n.kind ∈ NodeKind.shown) :
    ∃ o, n.output? = some (n.outputName, o) ∧ o.value.PointsTo n.id := by
  unfold output? outputName
  cases hkind : n.kind
  case vpc | s3 | dynamodb | apiGateway | sns | sqs => exact ⟨_, rfl, .ref⟩
  case lambda => exact ⟨_, rfl, .getAtt "Arn"⟩
  all_goals
    rw [hkind] at h
    exact absurd h (by decide)

lemma output?_of_not_shown (h : n.kind ∉ NodeKind.shown) : n.output? = none := by
  unfold output?
  cases hkind : n.kind
  case vpc | s3 | lambda | dynamodb | apiGateway | sns | sqs =>
    rw [hkind] at h
    exact absurd (by decide) h
  all_goals rfl

lemma shown_of_output? {named : String × Output} (h : n.output? = some named) :
    n.kind ∈ NodeKind.shown := by
  by_contra hhidden
  rw [output?_of_not_shown hhidden] at h
  exact absurd h (by simp)

lemma supported_of_shown (h : n.kind ∈ NodeKind.shown) : n.kind ≠ .unsupported := by
  intro hkind
  rw [hkind] at h
  exact absurd h (by decide)

/-- An output leads to the resource of its node. -/
lemma target_of_output? {name : String} {o : Output} (ho : n.output? = some (name, o))
    {reference : Reference} (hmentions : o.value.Mentions reference) :
    n.kind ≠ .unsupported ∧ reference.target = n.id := by
  have hshown := shown_of_output? ho
  obtain ⟨own, hown, hpoints⟩ := exists_output?_of_shown hshown
  obtain ⟨-, rfl⟩ := Prod.mk.inj (Option.some.inj (hown.symm.trans ho))
  exact ⟨supported_of_shown hshown, hpoints.target_eq hmentions⟩

lemma map_fst_output? (n : Node) :
    n.output?.map Prod.fst = if n.kind ∈ NodeKind.shown then some n.outputName else none := by
  split
  · next hshown =>
    obtain ⟨o, ho, -⟩ := exists_output?_of_shown hshown
    rw [ho, Option.map_some]
  · next hhidden => rw [output?_of_not_shown hhidden, Option.map_none]

end Node

/-! ## Generated outputs -/

/-- A template has one output for every node of a kind that is shown, and no other.  `name` tells
the names of the outputs. -/
structure Template.Shows (nodes : List Node) (name : Node → String) (t : Template) : Prop where
  /-- There are no other outputs. -/
  keys : t.outputs.keys = (nodes.filter fun n => n.kind ∈ NodeKind.shown).map name
  /-- No two nodes have one output. -/
  apart : ∀ n ∈ nodes, ∀ m ∈ nodes, n.kind ∈ NodeKind.shown → m.kind ∈ NodeKind.shown →
    name n = name m → n = m
  /-- The output of a node points to the resource of the node, which is in the template. -/
  own : ∀ n ∈ nodes, n.kind ∈ NodeKind.shown → ∃ o, t.outputs.get? (name n) = some o ∧
    o.value.PointsTo n.id ∧ ∃ roleId r, n.resource? (.ofNodes nodes) roleId = some r ∧
      t.resources.get? n.id = some r

variable {nodes : List Node}

lemma Laid.shows {t : Template} (h : Laid (.ofNodes nodes) nodes t)
    (hdistinct : (nodes.map Node.id).Nodup) : t.Shows nodes Node.outputName := by
  refine ⟨?_, fun n hn m hm hshown hshown' hsame => ?_, fun n hn hshown => ?_⟩
  · rw [Table.keys, h.outputs, Entries.keys, List.map_filterMap]
    simp only [Node.map_fst_output?, ← List.filterMap_eq_map, List.filterMap_filter,
      decide_eq_true_eq, Function.comp_apply]
  · obtain ⟨o, ho, -⟩ := Node.exists_output?_of_shown hshown
    obtain ⟨o', ho', -⟩ := Node.exists_output?_of_shown hshown'
    rw [← hsame] at ho'
    exact List.inj_on_of_nodup_map hdistinct hn hm (Node.id_eq_of_output? ho ho')
  · obtain ⟨o, ho, hpoints⟩ := Node.exists_output?_of_shown hshown
    obtain ⟨r, hr⟩ := Node.exists_resource?_of_supported (.ofNodes nodes)
      ((Surroundings.ofNodes nodes).roleId n) (Node.supported_of_shown hshown)
    refine ⟨o, ?_, hpoints, _, r, hr, h.get?_own hn hr⟩
    rw [Table.get?_eq_some_iff, h.outputs, List.mem_filterMap]
    exact ⟨n, hn, ho⟩

/-- What outputs mention is in the template, also where nodes share an id. -/
lemma resolves_of_mem_outputs (g : Graph) {name : String} {o : Output}
    (hmem : (name, o) ∈ g.template.outputs.entries) {reference : Reference}
    (hmentions : o.value.Mentions reference) : g.template.Resolves reference := by
  have hemitted := emitted_template g
  obtain ⟨n, hn, ho⟩ := hemitted.outputs name o hmem
  obtain ⟨hkind, htarget⟩ := n.target_of_output? ho hmentions
  have hpresent := hemitted.present n hn hkind
  rw [← htarget] at hpresent
  exact .inl hpresent

/-- A dangling output is the only finding with its code. -/
lemma eq_danglingOutput_of_text {f : Finding} (h : f.code.text = "E3004") :
    ∃ name reference, f = .danglingOutput name reference := by
  cases f
  case danglingOutput name reference => exact ⟨name, reference, rfl⟩
  all_goals exact absurd h (by simp [Finding.code, Code.text])

/-- No output of the template of some nodes is found to dangle, whatever the policy.  If the ids of
the nodes are distinct, the outputs are those of the nodes that are shown, one each. -/
theorem outputs_generate (nodes : List Node) (edges : List Edge) (name : String)
    (description : Option String) :
    (∀ p, ∀ f ∈ (validate p (generate nodes edges name description)).findings,
      f.code.text ≠ "E3004") ∧
      ((nodes.map Node.id).Nodup →
        (generate nodes edges name description).Shows nodes Node.outputName) := by
  constructor
  · intro p f hf hcode
    obtain ⟨output, reference, rfl⟩ := eq_danglingOutput_of_text hcode
    obtain ⟨o, hmem, hwithin, hdangling⟩ := danglingOutput_mem_findings_iff.mp hf
    exact hdangling (resolves_of_mem_outputs ⟨name, description, nodes, edges⟩ hmem
      hwithin.mentions)
  · intro hdistinct
    exact (laid_generate hdistinct edges name description).shows hdistinct

/-- Nodes whose ids are made of the endings of outputs. -/
def endingNodes : List Node := [
  ⟨"", .vpc, .empty⟩,
  ⟨"Id", .s3, .empty⟩,
  ⟨"IdName", .subnet, .empty⟩,
  ⟨"IdNa", .lambda, .empty⟩,
  ⟨"Url", .sqs, .empty⟩]

/-- The first output has the name of the second node, and the second that of the third. -/
theorem outputs_generate_endingNodes :
    (endingNodes.map Node.id).Nodup ∧
      (generate endingNodes [] "" none).Shows endingNodes Node.outputName ∧
      (generate endingNodes [] "" none).outputs.keys = ["Id", "IdName", "IdNaArn", "UrlUrl"] := by
  have hdistinct : (endingNodes.map Node.id).Nodup := by decide
  have hshows := (outputs_generate endingNodes [] "" none).2 hdistinct
  refine ⟨hdistinct, hshows, ?_⟩
  rw [hshows.keys]
  decide

end CloudTemplate
