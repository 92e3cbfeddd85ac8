import CloudTemplate.Proofs.Dependency.Order
import CloudTemplate.Proofs.Validation.Report

/-!
# The verdict on dependencies

A deployment can be carried out only if everything that is named is there and the resources can be
set up one after the other.  `no_dependency_error_iff` says that a report is free of dangling
dependencies, dangling references and circles exactly if this is so, provided that the limits of
the policy let every property and every chain of dependencies be looked at whole.

The three lemmas before it say of each of these errors when it is in the report.
-/

namespace CloudTemplate

variable {p : Policy} {t : Template}

/-! ## Single errors -/

lemma danglingDependency_mem_findings_iff {id target : String} :
    .danglingDependency id target ∈ (validate p t).findings ↔
      ∃ r, (id, r) ∈ t.resources.entries ∧ target ∈ r.dependsOn ∧ target ∉ t.resources.keys := by
  rw [mem_findings_validate_iff_of_mem_dependencies rfl (by simp [Finding.code, Pass.codes])]
  simp [Template.mem_nameFindings_iff, Template.mem_outputNameFindings_iff,
    Template.mem_cycleFindings_iff]

lemma danglingReference_mem_findings_iff {id property : String} {reference : Reference} :
    .danglingReference id property reference ∈ (validate p t).findings ↔
      ∃ r, (id, r) ∈ t.resources.entries ∧ ∃ value, (property, value) ∈ r.properties.entries ∧
        reference ∈ (scan p.maxReferenceDepth value).references ∧ ¬ t.Resolves reference := by
  rw [mem_findings_validate_iff_of_mem_dependencies rfl (by simp [Finding.code, Pass.codes])]
  simp [Template.mem_nameFindings_iff, Template.mem_outputNameFindings_iff,
    Template.mem_cycleFindings_iff]

lemma circularDependency_mem_findings_iff {first : String} {more : List String} :
    .circularDependency first more ∈ (validate p t).findings ↔
      first :: more ∈
        (findCycles (t.dependencyGraph p.maxReferenceDepth) p.maxDependencyDepth).paths := by
  rw [mem_findings_validate_iff_of_mem_dependencies rfl (by simp [Finding.code, Pass.codes])]
  simp [Template.mem_nameFindings_iff, Template.mem_outputNameFindings_iff,
    Template.mem_cycleFindings_iff]

/-! ## What a deployment asks for -/

namespace Template

/-- Every resource that must exist before another is there. -/
def DependenciesExist (t : Template) : Prop :=
  ∀ id r, (id, r) ∈ t.resources.entries → ∀ target ∈ r.dependsOn, target ∈ t.resources.keys

/-- Every reference in a property names something that is there. -/
def ReferencesResolve (t : Template) : Prop :=
  ∀ id r, (id, r) ∈ t.resources.entries → ∀ reference, r.Mentions reference → t.Resolves reference

/-- The resources are listed, each behind all those that it needs. -/
def IsDeploymentOrder (t : Template) (order : List String) : Prop :=
  order.Perm t.resources.keys ∧ ∀ id r, (id, r) ∈ t.resources.entries →
    ∀ target ∈ t.resources.keys, r.Needs target → order.idxOf target < order.idxOf id

/-- The orders of the dependency graph are those in which a deployment can be carried out. -/
lemma isOrder_dependencyGraph_iff {limit : Nat}
    (hscan : ∀ id r, (id, r) ∈ t.resources.entries → r.Scannable limit) {order : List String} :
    (t.dependencyGraph limit).IsOrder order ↔ t.IsDeploymentOrder order := by
  rw [DependencyGraph.IsOrder, IsDeploymentOrder, keys_dependencyGraph]
  refine and_congr Iff.rfl ⟨fun h id r hr target hkey hneeds => ?_, fun h id target hedge => ?_⟩
  · exact h id target ((edge_dependencyGraph_iff hscan).mpr ⟨r, hr, hneeds, hkey⟩)
  · obtain ⟨r, hr, hneeds, hkey⟩ := needs_of_edge hedge
    exact h id r hr target hkey hneeds

end Template

/-! ## The verdict -/

lemma forall_text_not_mem_iff {findings : List Finding} :
    (∀ f ∈ findings, f.code.text ∉ ["E3001", "E3002", "E3003"]) ↔
      (∀ id target, .danglingDependency id target ∉ findings) ∧
      (∀ id property reference, .danglingReference id property reference ∉ findings) ∧
      ∀ first more, .circularDependency first more ∉ findings := by
  have htext : ∀ f : Finding, f.code.text ∈ ["E3001", "E3002", "E3003"] ↔
      (∃ id target, f = .danglingDependency id target) ∨
      (∃ id property reference, f = .danglingReference id property reference) ∨
      ∃ first more, f = .circularDependency first more := by
    intro f
    cases f <;> simp [Finding.code, Code.text]
  simp only [htext]
  constructor
  · intro h
    refine ⟨fun id target hf => ?_, fun id property reference hf => ?_, fun first more hf => ?_⟩
    · exact h _ hf (.inl ⟨id, target, rfl⟩)
    · exact h _ hf (.inr (.inl ⟨id, property, reference, rfl⟩))
    · exact h _ hf (.inr (.inr ⟨first, more, rfl⟩))
  · rintro ⟨hdangling, hreference, hcircle⟩ f hf
      (⟨id, target, rfl⟩ | ⟨id, property, reference, rfl⟩ | ⟨first, more, rfl⟩)
    · exact hdangling id target hf
    · exact hreference id property reference hf
    · exact hcircle first more hf

lemma no_circularDependency_iff (hdependencies : t.resources.size ≤ p.maxDependencyDepth)
    (hreferences : ∀ id r, (id, r) ∈ t.resources.entries → r.Scannable p.maxReferenceDepth) :
    (∀ first more, .circularDependency first more ∉ (validate p t).findings) ↔
      ∃ order, t.IsDeploymentOrder order := by
  have hsize : (t.dependencyGraph p.maxReferenceDepth).size ≤ p.maxDependencyDepth := by
    rwa [Template.size_dependencyGraph]
  simp only [circularDependency_mem_findings_iff, ← Template.isOrder_dependencyGraph_iff
    hreferences, ← CycleSearch.paths_eq_nil_iff_exists_order
      (fun _ _ => Template.mem_keys_of_edge_dependencyGraph) hsize]
  constructor
  · intro h
    rw [List.eq_nil_iff_forall_not_mem]
    intro path hpath
    have hcircle := CycleSearch.isCircle_of_mem_paths hpath
    obtain ⟨first, rest, rfl⟩ := hcircle.exists_closedPath
    exact h first (rest ++ [first]) hpath
  · intro hnil first more hmem
    rw [hnil] at hmem
    exact List.not_mem_nil hmem

/-- A report is free of dangling dependencies, dangling references and circles exactly if all that
is named is there and the resources can be listed so that each stands behind those that it needs. -/
theorem no_dependency_error_iff (p : Policy) (t : Template)
    (hdependencies : t.resources.size ≤ p.maxDependencyDepth)
    (hreferences : ∀ id r, (id, r) ∈ t.resources.entries → r.Scannable p.maxReferenceDepth) :
    (∀ f ∈ (validate p t).findings, f.code.text ∉ ["E3001", "E3002", "E3003"]) ↔
      t.DependenciesExist ∧ t.ReferencesResolve ∧ ∃ order, t.IsDeploymentOrder order := by
  rw [forall_text_not_mem_iff, no_circularDependency_iff hdependencies hreferences]
  refine and_congr ?_ (and_congr ?_ Iff.rfl)
  · simp only [danglingDependency_mem_findings_iff, Template.DependenciesExist]
    constructor
    · intro h id r hr target htarget
      by_contra hkey
      exact h id target ⟨r, hr, htarget, hkey⟩
    · rintro h id target ⟨r, hr, htarget, hkey⟩
      exact hkey (h id r hr target htarget)
  · simp only [danglingReference_mem_findings_iff, Template.ReferencesResolve]
    constructor
    · rintro h id r hr reference ⟨property, value, hvalue, hmentions⟩
      by_contra hresolves
      have hfound :=
        (PropertyValue.mem_scan_iff (hreferences id r hr property value hvalue)).mpr hmentions
      exact h id property reference ⟨r, hr, value, hvalue, hfound, hresolves⟩
    · rintro h id property reference ⟨r, hr, value, hvalue, hfound, hresolves⟩
      have hmentions := PropertyValue.mentions_of_mem_scan hfound
      exact hresolves (h id r hr reference ⟨property, value, hvalue, hmentions⟩)

/-- A function that is named after a parameter and a bucket, and runs under a role. -/
def stageFunction : Resource where
  typeName := "AWS::Lambda::Function"
  properties := .ofList [
    ("FunctionName", .map [(subKey, .list [.string "$\x7bStage\x7d-$\x7bname\x7d",
      .map [("name", .ref "Bucket")]])]),
    ("Role", .getAtt "Role" "Arn")]
  dependsOn := ["Bucket"]

/-- A template with the function, and behind it what it needs. -/
def stageTemplate : Template where
  formatVersion := formatVersion
  description := ""
  parameters := .ofList [("Stage", .null)]
  resources := .ofList [("Function", stageFunction), ("Role", .ofType "AWS::IAM::Role"),
    ("Bucket", .ofType "AWS::S3::Bucket")]

/-- The references that occur in the properties of the function. -/
def stageReferences : List Reference := [.sub "Stage", .ref "Bucket", .getAtt "Role" "Arn"]

lemma stageFunction_entries : stageFunction.properties.entries =
    [("FunctionName", .map [(subKey, .list [.string "$\x7bStage\x7d-$\x7bname\x7d",
      .map [("name", .ref "Bucket")]])]), ("Role", .getAtt "Role" "Arn")] := rfl

lemma mentions_stageFunction {reference : Reference} (h : stageFunction.Mentions reference) :
    reference ∈ stageReferences := by
  obtain ⟨property, value, hmem, h⟩ := h
  rw [stageFunction_entries] at hmem
  simp only [List.mem_cons, Prod.mk.injEq, List.not_mem_nil, or_false] at hmem
  rcases hmem with ⟨-, rfl⟩ | ⟨-, rfl⟩
  · cases h with
    | value plain => exact absurd rfl (plain _ _)
    | unbound hname hfree =>
      rw [show subVariables "$\x7bStage\x7d-$\x7bname\x7d" = ["Stage", "name"] by decide] at hname
      simp only [Entries.keys, List.map_cons, List.map_nil, List.mem_cons, List.not_mem_nil,
        or_false] at hname hfree
      rw [hname.resolve_right hfree]
      simp [stageReferences]
    | binding hmem h =>
      obtain ⟨-, rfl⟩ : _ ∧ _ := by simpa using hmem
      cases h
      simp [stageReferences]
  · cases h
    simp [stageReferences]

lemma mentions_ofType {typeName : String} {reference : Reference} :
    ¬ (Resource.ofType typeName).Mentions reference := by
  rintro ⟨property, value, hmem, -⟩
  exact List.not_mem_nil hmem

lemma mem_stageTemplate {id : String} {r : Resource}
    (h : (id, r) ∈ stageTemplate.resources.entries) :
    (id = "Function" ∧ r = stageFunction) ∨ ∃ typeName, r = .ofType typeName := by
  have hentries : stageTemplate.resources.entries = [("Function", stageFunction),
    ("Role", .ofType "AWS::IAM::Role"), ("Bucket", .ofType "AWS::S3::Bucket")] := rfl
  simp only [hentries, List.mem_cons, Prod.mk.injEq, List.not_mem_nil, or_false] at h
  rcases h with h | ⟨-, rfl⟩ | ⟨-, rfl⟩
  · exact .inl h
  · exact .inr ⟨_, rfl⟩
  · exact .inr ⟨_, rfl⟩

lemma scannable_stageTemplate (id : String) (r : Resource)
    (h : (id, r) ∈ stageTemplate.resources.entries) : r.Scannable 64 := by
  intro property value hvalue
  rcases mem_stageTemplate h with ⟨-, rfl⟩ | ⟨typeName, rfl⟩
  · have hsizes : ∀ entry ∈ stageFunction.properties.entries, entry.2.size ≤ 64 := by decide
    exact (PropertyValue.nesting_le_size value).trans (hsizes _ hvalue)
  · exact absurd hvalue List.not_mem_nil

lemma dependenciesExist_stageTemplate : stageTemplate.DependenciesExist := by
  intro id r hmem target htarget
  rcases mem_stageTemplate hmem with ⟨-, rfl⟩ | ⟨typeName, rfl⟩
  · rw [List.mem_singleton.mp htarget]
    decide
  · exact absurd htarget List.not_mem_nil

lemma referencesResolve_stageTemplate : stageTemplate.ReferencesResolve := by
  intro id r hmem reference hmentions
  rcases mem_stageTemplate hmem with ⟨-, rfl⟩ | ⟨typeName, rfl⟩
  · rw [← Template.resolves_eq_true_iff]
    have hall : ∀ reference ∈ stageReferences,
        stageTemplate.resolves reference = true := by decide
    exact hall reference (mentions_stageFunction hmentions)
  · exact absurd hmentions mentions_ofType

lemma isDeploymentOrder_stageTemplate :
    stageTemplate.IsDeploymentOrder ["Bucket", "Role", "Function"] := by
  refine ⟨by decide, fun id r hmem target hkey hneeds => ?_⟩
  rcases mem_stageTemplate hmem with ⟨rfl, rfl⟩ | ⟨typeName, rfl⟩
  · have hall : ∀ target ∈ stageTemplate.resources.keys, target ∈ ["Bucket", "Stage", "Role"] →
        ["Bucket", "Role", "Function"].idxOf target < 2 := by decide
    refine hall target hkey ?_
    rcases hneeds with hlisted | ⟨reference, hmentions, rfl⟩
    · rw [List.mem_singleton.mp hlisted]
      decide
    · have htargets : ∀ reference ∈ stageReferences,
          reference.target ∈ ["Bucket", "Stage", "Role"] := by decide
      exact htargets reference (mentions_stageFunction hmentions)
  · rcases hneeds with hlisted | ⟨reference, hmentions, -⟩
    · exact absurd hlisted List.not_mem_nil
    · exact absurd hmentions mentions_ofType

/-- The bucket and the role are set up before the function. -/
theorem no_dependency_error_iff_stageTemplate :
    stageTemplate.resources.size ≤ 1024 ∧
      (∀ id r, (id, r) ∈ stageTemplate.resources.entries → r.Scannable 64) ∧
      ∀ f ∈ (validate {} stageTemplate).findings, f.code.text ∉ ["E3001", "E3002", "E3003"] := by
  have hsize : stageTemplate.resources.size ≤ 1024 := by decide
  refine ⟨hsize, scannable_stageTemplate, ?_⟩
  rw [no_dependency_error_iff {} stageTemplate hsize scannable_stageTemplate]
  exact ⟨dependenciesExist_stageTemplate, referencesResolve_stageTemplate, _,
    isDeploymentOrder_stageTemplate⟩

end CloudTemplate
