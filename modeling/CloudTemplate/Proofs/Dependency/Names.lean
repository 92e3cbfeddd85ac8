import CloudTemplate.Dependency.Cycles
import CloudTemplate.Proofs.Dependency.Circle
import CloudTemplate.Proofs.Reference.Within
import CloudTemplate.Proofs.Table

/-!
# The names that a template uses

What a resource mentions and what it needs is defined here on the resource alone, without the scan
that finds it.  The dependency graph of a template has an edge from a resource to each resource that
it needs, if the scan goes deep enough (`edge_dependencyGraph_iff`), and never any other
(`needs_of_edge`).  The findings about names are taken apart in the same way
(`mem_nameFindings_iff`, `mem_outputNameFindings_iff`, `mem_cycleFindings_iff`).
-/

namespace CloudTemplate

namespace Resource

/-- A reference occurs in some property of a resource. -/
def Mentions (r : Resource) (reference : Reference) : Prop :=
  ∃ property value, (property, value) ∈ r.properties.entries ∧ value.Mentions reference

/-- A resource names a target, among those that must exist before it or in a property. -/
def Needs (r : Resource) (target : String) : Prop :=
  target ∈ r.dependsOn ∨ ∃ reference, r.Mentions reference ∧ reference.target = target

/-- Every property can be scanned whole. -/
def Scannable (limit : Nat) (r : Resource) : Prop :=
  ∀ property value, (property, value) ∈ r.properties.entries → value.nesting ≤ limit

variable {r : Resource} {limit : Nat} {target : String}

lemma mem_usedNames_iff : target ∈ r.usedNames limit ↔ target ∈ r.dependsOn ∨
    ∃ property value, (property, value) ∈ r.properties.entries ∧
      ∃ reference ∈ (scan limit value).references, reference.target = target := by
  simp [usedNames, scans]

lemma needs_of_mem_usedNames (h : target ∈ r.usedNames limit) : r.Needs target := by
  rcases mem_usedNames_iff.mp h with hlisted | ⟨property, value, hmem, reference, hfound, rfl⟩
  · exact .inl hlisted
  · exact .inr ⟨reference, ⟨property, value, hmem, PropertyValue.mentions_of_mem_scan hfound⟩, rfl⟩

lemma mem_usedNames_of_needs (hscan : r.Scannable limit) (h : r.Needs target) :
    target ∈ r.usedNames limit := by
  rw [mem_usedNames_iff]
  rcases h with hlisted | ⟨reference, ⟨property, value, hmem, hmentions⟩, htarget⟩
  · exact .inl hlisted
  · have hfound := (PropertyValue.mem_scan_iff (hscan property value hmem)).mpr hmentions
    exact .inr ⟨property, value, hmem, reference, hfound, htarget⟩

lemma any_truncated_scans_iff :
    (r.scans limit).any (fun x => x.2.truncated) = true ↔ ¬ r.Scannable limit := by
  rw [← Bool.not_eq_false, not_iff_not, List.any_eq_false]
  constructor
  · intro h property value hmem
    have hscan := h _ (List.mem_map_of_mem hmem)
    exact PropertyValue.scan_truncated_eq_false_iff.mp (Bool.eq_false_of_not_eq_true hscan)
  · intro h x hx
    obtain ⟨⟨property, value⟩, hmem, rfl⟩ := List.mem_map.mp hx
    exact Bool.not_eq_true _ ▸ PropertyValue.scan_truncated_eq_false_iff.mpr (h property value hmem)

end Resource

namespace Template

variable {t : Template} {limit : Nat}

/-- A reference names a resource, a pseudo parameter or, unless it names an attribute, a
parameter. -/
def Resolves (t : Template) (reference : Reference) : Prop :=
  reference.target ∈ t.resources.keys ∨ reference.target ∈ pseudoParameters ∨
    ((∀ target name, reference ≠ .getAtt target name) ∧ reference.target ∈ t.parameters.keys)

lemma mayNameParameter_eq_true_iff {reference : Reference} :
    reference.mayNameParameter = true ↔ ∀ target name, reference ≠ .getAtt target name := by
  cases reference <;> simp [Reference.mayNameParameter]

lemma resolves_eq_true_iff {reference : Reference} :
    t.resolves reference = true ↔ t.Resolves reference := by
  simp only [resolves, isPseudoParameter, Bool.or_eq_true, Bool.and_eq_true,
    Table.contains_eq_true_iff, List.contains_iff_mem, mayNameParameter_eq_true_iff, Resolves,
    or_assoc]

/-! ## The dependency graph -/

lemma keys_dependencyGraph (t : Template) (limit : Nat) :
    (t.dependencyGraph limit).keys = t.resources.keys :=
  Table.keys_map _ _

lemma size_dependencyGraph (t : Template) (limit : Nat) :
    (t.dependencyGraph limit).size = t.resources.size := by
  rw [← Table.length_keys, keys_dependencyGraph, Table.length_keys]

lemma nodup_targets_dependencyGraph (id : String) :
    ((t.dependencyGraph limit).targets id).Nodup := by
  rw [DependencyGraph.targets]
  cases hget : (t.dependencyGraph limit).get? id with
  | none => exact List.nodup_nil
  | some targets =>
    obtain ⟨r, -, rfl⟩ := Table.mem_entries_map.mp (Table.get?_eq_some_iff.mp hget)
    exact nodup_pushAllNew List.nodup_nil _

lemma targets_dependencyGraph {id : String} {r : Resource} (hr : (id, r) ∈ t.resources.entries) :
    (t.dependencyGraph limit).targets id = t.dependencies limit r := by
  have hget : (t.dependencyGraph limit).get? id = some (t.dependencies limit r) :=
    Table.get?_eq_some_iff.mpr (Table.mem_entries_map.mpr ⟨r, hr, rfl⟩)
  rw [DependencyGraph.targets, hget, Option.getD_some]

lemma edge_iff_mem_usedNames {id target : String} :
    (t.dependencyGraph limit).Edge id target ↔ ∃ r, (id, r) ∈ t.resources.entries ∧
      target ∈ r.usedNames limit ∧ target ∈ t.resources.keys := by
  have htargets : ∀ r, target ∈ t.dependencies limit r ↔
      target ∈ r.usedNames limit ∧ target ∈ t.resources.keys := by
    intro r
    simp [dependencies, distinctNames, mem_pushAllNew, Table.contains_eq_true_iff]
  constructor
  · intro h
    rw [DependencyGraph.Edge, DependencyGraph.targets] at h
    cases hget : (t.dependencyGraph limit).get? id with
    | none => simp [hget] at h
    | some targets =>
      obtain ⟨r, hr, rfl⟩ := Table.mem_entries_map.mp (Table.get?_eq_some_iff.mp hget)
      rw [hget, Option.getD_some, htargets] at h
      exact ⟨r, hr, h⟩
  · rintro ⟨r, hr, h⟩
    rw [DependencyGraph.Edge, targets_dependencyGraph hr, htargets]
    exact h

/-- Edges lead to resources that are needed. -/
lemma needs_of_edge {id target : String} (h : (t.dependencyGraph limit).Edge id target) :
    ∃ r, (id, r) ∈ t.resources.entries ∧ r.Needs target ∧ target ∈ t.resources.keys := by
  obtain ⟨r, hr, hused, hkey⟩ := edge_iff_mem_usedNames.mp h
  exact ⟨r, hr, Resource.needs_of_mem_usedNames hused, hkey⟩

lemma mem_keys_of_edge_dependencyGraph {a b : String} (h : (t.dependencyGraph limit).Edge a b) :
    b ∈ (t.dependencyGraph limit).keys := by
  obtain ⟨r, -, -, hkey⟩ := needs_of_edge h
  rwa [keys_dependencyGraph]

/-- If all properties can be scanned whole, edges lead to all resources that are needed. -/
lemma edge_dependencyGraph_iff (hscan : ∀ id r, (id, r) ∈ t.resources.entries → r.Scannable limit)
    {id target : String} : (t.dependencyGraph limit).Edge id target ↔
      ∃ r, (id, r) ∈ t.resources.entries ∧ r.Needs target ∧ target ∈ t.resources.keys := by
  refine ⟨needs_of_edge, ?_⟩
  rintro ⟨r, hr, hneeds, hkey⟩
  exact edge_iff_mem_usedNames.mpr
    ⟨r, hr, Resource.mem_usedNames_of_needs (hscan id r hr) hneeds, hkey⟩

/-! ## Findings about names -/

lemma mem_nameFindings_iff {id : String} {r : Resource} {f : Finding} :
    f ∈ t.nameFindings limit id r ↔
      (∃ target ∈ r.dependsOn, target ∉ t.resources.keys ∧ .danglingDependency id target = f) ∨
      (∃ property value, (property, value) ∈ r.properties.entries ∧
        ∃ reference ∈ (scan limit value).references,
          ¬ t.Resolves reference ∧ .danglingReference id property reference = f) ∨
      ¬ r.Scannable limit ∧ .referenceDepth id limit = f := by
  simp only [nameFindings, List.mem_append, List.mem_map, List.mem_filter, List.mem_flatMap,
    Bool.not_eq_true', Bool.eq_false_iff, ne_eq, Table.contains_eq_true_iff, resolves_eq_true_iff,
    or_assoc, and_assoc]
  refine or_congr Iff.rfl (or_congr ?_ ?_)
  · simp [Resource.scans]
  · split
    · next hcut => simp [Resource.any_truncated_scans_iff.mp hcut, eq_comm]
    · next hwhole =>
      rw [Resource.any_truncated_scans_iff] at hwhole
      simp [hwhole]

lemma mem_outputNameFindings_iff {f : Finding} :
    f ∈ t.outputNameFindings limit ↔
      ∃ name output, (name, output) ∈ t.outputs.entries ∧
        ∃ reference ∈ (scan limit output.value).references,
          ¬ t.Resolves reference ∧ .danglingOutput name reference = f := by
  simp [outputNameFindings, resolves_eq_true_iff, ← Bool.not_eq_true, and_assoc]

lemma mem_cycleFindings_iff {dependencyLimit : Nat} {f : Finding} :
    f ∈ t.cycleFindings limit dependencyLimit ↔
      (∃ first more, first :: more ∈ (findCycles (t.dependencyGraph limit) dependencyLimit).paths ∧
        .circularDependency first more = f) ∨
      (findCycles (t.dependencyGraph limit) dependencyLimit).truncated = true ∧
        .dependencyDepth dependencyLimit = f := by
  simp only [cycleFindings, List.mem_append, List.mem_filterMap]
  refine or_congr ⟨?_, ?_⟩ ?_
  · rintro ⟨path, hpath, hfinding⟩
    cases path with
    | nil => simp at hfinding
    | cons first more => exact ⟨first, more, hpath, Option.some.inj hfinding⟩
  · rintro ⟨first, more, hpath, rfl⟩
    exact ⟨first :: more, hpath, rfl⟩
  · split
    · next hcut => simp [hcut, eq_comm]
    · next hwhole => simp [hwhole]

end Template

end CloudTemplate
