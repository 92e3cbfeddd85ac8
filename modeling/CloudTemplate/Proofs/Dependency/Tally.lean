import CloudTemplate.Proofs.Dependency.Names
import CloudTemplate.Proofs.Validation.About

/-!
# Every name is accounted for

A name that a resource uses is the name of a resource, or something else that it may be, or leads
nowhere.  `Template.Accounts` says of a graph and of a list of findings that every use of a name is
in one of the two as it should be: as an edge, told once however often the name is used, or as a
finding, one for every use, or in silence.  It says so for each resource, and for the references for
each property, by picking out the findings with a code about it.  The dependency graph and the
findings about names are so, whatever the template and the limit (`accounts_dependencyGraph`).

What the findings about one resource are is read off `Template.nameFindings`, where each kind of
finding has a code of its own (`filter_nameFindings`).
-/

namespace CloudTemplate

namespace Template

instance (t : Template) : DecidablePred t.Resolves :=
  fun _ => decidable_of_iff _ resolves_eq_true_iff

/-- A graph and a list of findings account for the names that the resources of a template use, in
properties as far as the limit of the scan lets them be seen. -/
structure Accounts (t : Template) (limit : Nat) (g : DependencyGraph) (findings : List Finding) :
    Prop where
  /-- The vertices are the resources, in their order. -/
  keys : g.keys = t.resources.keys
  /-- Each target of an edge is told once, and is a vertex. -/
  targets : ∀ id, (g.targets id).Nodup ∧ g.targets id ⊆ g.keys
  /-- An edge leads to a resource that is listed or that a scan of a property comes upon. -/
  edge : ∀ id r, (id, r) ∈ t.resources.entries → ∀ target, g.Edge id target ↔
    target ∈ t.resources.keys ∧ (target ∈ r.dependsOn ∨
      ∃ property value, (property, value) ∈ r.properties.entries ∧
        ∃ reference ∈ (scan limit value).references, reference.target = target)
  /-- Each listed name that is not that of a resource makes one finding. -/
  listed : ∀ id r, (id, r) ∈ t.resources.entries → findingsAbout "E3001" id findings =
    (r.dependsOn.filter (· ∉ t.resources.keys)).map (.danglingDependency id)
  /-- Each occurrence of a reference that leads nowhere makes one finding, on its property. -/
  referred : ∀ id r, (id, r) ∈ t.resources.entries →
    ∀ property value, (property, value) ∈ r.properties.entries →
      (findingsAbout "E3002" id findings).filter (·.property? = some property) =
        ((scan limit value).references.filter (¬ t.Resolves ·)).map
          (.danglingReference id property)
  /-- All properties that are too deep for the scan make one finding together. -/
  deep : ∀ id r, (id, r) ∈ t.resources.entries → findingsAbout "W3001" id findings =
    if ∃ entry ∈ r.properties.entries, (scan limit entry.2).truncated = true then
      [.referenceDepth id limit] else []
  /-- There are no other findings. -/
  nothingElse : ∀ f ∈ findings, ∃ id r, (id, r) ∈ t.resources.entries ∧ f.resource? = some id ∧
    (f.code.text = "E3001" ∨ f.code.text = "W3001" ∨ f.code.text = "E3002" ∧
      ∃ property value, (property, value) ∈ r.properties.entries ∧ f.property? = some property)

variable {t : Template} {limit : Nat} {id : String} {r : Resource}

/-! ## The findings about one resource -/

lemma resource?_of_mem_nameFindings {f : Finding} (h : f ∈ t.nameFindings limit id r) :
    f.resource? = some id := by
  rcases mem_nameFindings_iff.mp h with ⟨_, _, _, rfl⟩ | ⟨_, _, _, _, _, _, rfl⟩ | ⟨_, rfl⟩ <;> rfl

/-- The findings about a resource are among those that its own names make. -/
lemma findingsAbout_resourceNameFindings (hr : (id, r) ∈ t.resources.entries) (code : String) :
    findingsAbout code id (t.resourceNameFindings limit) =
      (t.nameFindings limit id r).filter (·.code.text = code) :=
  findingsAbout_flatMap (fun _ _ _ hf => resource?_of_mem_nameFindings hf) hr code

/-- The findings about a resource: on the names it lists, on each property, and on how deep its
properties are. -/
lemma nameFindings_eq : t.nameFindings limit id r =
    (r.dependsOn.filter (· ∉ t.resources.keys)).map (.danglingDependency id) ++
      (r.properties.entries.flatMap fun entry =>
        ((scan limit entry.2).references.filter (¬ t.Resolves ·)).map
          (.danglingReference id entry.1)) ++
      if ∃ entry ∈ r.properties.entries, (scan limit entry.2).truncated = true then
        [.referenceDepth id limit] else [] := by
  have hlisted : (r.dependsOn.filter fun target => !t.resources.contains target) =
      r.dependsOn.filter (· ∉ t.resources.keys) :=
    List.filter_congr fun target _ => by simp [← Table.contains_eq_true_iff]
  have hreferred : ∀ references : List Reference,
      (references.filter fun reference => !t.resolves reference) =
        references.filter (¬ t.Resolves ·) := fun references =>
    List.filter_congr fun reference _ => by simp [← resolves_eq_true_iff]
  rw [nameFindings, hlisted]
  simp only [hreferred, Resource.scans, List.flatMap_map, List.any_map, List.any_eq_true,
    Function.comp_apply]

/-- The three kinds of findings about names have a code each. -/
lemma filter_nameFindings (code : String) :
    (t.nameFindings limit id r).filter (·.code.text = code) =
      (if "E3001" = code then
        (r.dependsOn.filter (· ∉ t.resources.keys)).map (.danglingDependency id) else []) ++
      (if "E3002" = code then r.properties.entries.flatMap fun entry =>
        ((scan limit entry.2).references.filter (¬ t.Resolves ·)).map
          (.danglingReference id entry.1) else []) ++
      if "W3001" = code then
        if ∃ entry ∈ r.properties.entries, (scan limit entry.2).truncated = true then
          [.referenceDepth id limit] else []
      else [] := by
  rw [nameFindings_eq, List.filter_append, List.filter_append]
  congr 1
  · congr 1
    · refine filter_code_eq (fun f hf => ?_) code
      obtain ⟨_, _, rfl⟩ := List.mem_map.mp hf
      rfl
    · refine filter_code_eq (fun f hf => ?_) code
      obtain ⟨_, _, hf⟩ := List.mem_flatMap.mp hf
      obtain ⟨_, _, rfl⟩ := List.mem_map.mp hf
      rfl
  · refine filter_code_eq (fun f hf => ?_) code
    split at hf
    · rw [List.mem_singleton.mp hf]
      rfl
    · exact absurd hf List.not_mem_nil

/-- The findings on the references of one property. -/
lemma filter_property?_eq {property : String} {value : PropertyValue}
    (hvalue : (property, value) ∈ r.properties.entries) :
    (r.properties.entries.flatMap fun entry =>
        ((scan limit entry.2).references.filter (¬ t.Resolves ·)).map
          (Finding.danglingReference id entry.1)).filter (·.property? = some property) =
      ((scan limit value).references.filter (¬ t.Resolves ·)).map
        (.danglingReference id property) := by
  rw [List.filter_flatMap, Table.flatMap_entries_eq hvalue]
  · exact List.filter_eq_self.mpr fun f hf => by
      obtain ⟨_, _, rfl⟩ := List.mem_map.mp hf
      simp [Finding.property?]
  · intro name v hne
    refine List.filter_eq_nil_iff.mpr fun f hf => ?_
    obtain ⟨_, _, rfl⟩ := List.mem_map.mp hf
    simp [Finding.property?, hne]

/-! ## The whole account -/

/-- The dependency graph and the findings account for all names that the resources use. -/
theorem accounts_dependencyGraph (t : Template) (limit : Nat) :
    t.Accounts limit (t.dependencyGraph limit) (t.resourceNameFindings limit) where
  keys := keys_dependencyGraph t limit
  targets := fun id => ⟨nodup_targets_dependencyGraph id, fun _ hedge =>
    mem_keys_of_edge_dependencyGraph hedge⟩
  edge := by
    intro id r hr target
    rw [edge_iff_mem_usedNames, ← Resource.mem_usedNames_iff, and_comm]
    constructor
    · rintro ⟨other, hother, h⟩
      rwa [Table.eq_of_mem_entries hr hother]
    · exact fun h => ⟨r, hr, h⟩
  listed := by
    intro id r hr
    rw [findingsAbout_resourceNameFindings hr, filter_nameFindings, if_pos rfl,
      if_neg (by decide), if_neg (by decide), List.append_nil, List.append_nil]
  referred := by
    intro id r hr property value hvalue
    rw [findingsAbout_resourceNameFindings hr, filter_nameFindings, if_neg (by decide),
      if_pos rfl, if_neg (by decide), List.nil_append, List.append_nil, filter_property?_eq hvalue]
  deep := by
    intro id r hr
    rw [findingsAbout_resourceNameFindings hr, filter_nameFindings, if_neg (by decide),
      if_neg (by decide), if_pos rfl, List.nil_append, List.nil_append]
  nothingElse := by
    intro f hf
    obtain ⟨⟨id, r⟩, hr, hf⟩ := List.mem_flatMap.mp hf
    refine ⟨id, r, hr, resource?_of_mem_nameFindings hf, ?_⟩
    rcases mem_nameFindings_iff.mp hf with
      ⟨_, _, _, rfl⟩ | ⟨property, value, hvalue, _, _, _, rfl⟩ | ⟨_, rfl⟩
    · exact .inl rfl
    · exact .inr (.inr ⟨rfl, property, value, hvalue, rfl⟩)
    · exact .inr (.inl rfl)

end Template

end CloudTemplate
