import CloudTemplate.Proofs.Dependency.Names
import CloudTemplate.Validation.Validate

/-!
# What a report contains

Each pass has codes of its own (`Pass.codes`): what a pass finds has one of them
(`Pass.code_mem_codes`), and no two passes share one.  So a finding in a report can be traced to its
pass, and an error is in the report exactly if its pass finds it
(`mem_findings_validate_iff_of_isError`), whatever the policy drops.  A template is valid exactly if
no pass finds an error, where good practice need not be looked at (`valid_validate_iff`).
-/

namespace CloudTemplate

variable {p : Policy} {t : Template} {f : Finding}

namespace Pass

/-- The codes of what a pass may find. -/
def codes : Pass → List Code
  | .structural =>
    [.formatVersion, .longDescription, .noResources, .invalidLogicalId, .longLogicalId]
  | .properties => [.unknownType, .missingProperty, .unknownProperty, .invalidProperty]
  | .dependencies =>
    [.danglingDependency, .danglingReference, .referenceDepth, .danglingOutput,
      .circularDependency, .dependencyDepth]
  | .bestPractices =>
    [.unencryptedBucket, .unencryptedDatabase, .singleZoneDatabase, .longTimeout, .openIngress]

/-- No two passes share a code. -/
lemma eq_of_mem_codes {pass other : Pass} {code : Code} (h : code ∈ pass.codes)
    (h' : code ∈ other.codes) : pass = other := by
  cases pass <;> cases other <;> first | rfl | (revert h h'; cases code <;> decide)

end Pass

lemma mem_structureFindings_iff : f ∈ t.structureFindings ↔
    (t.formatVersion ≠ formatVersion ∧ f = .formatVersion t.formatVersion) ∨
    (descriptionLimit < t.description.utf8ByteSize ∧
      f = .longDescription t.description.utf8ByteSize) ∨
    (t.resources.isEmpty = true ∧ f = .noResources) ∨
    ∃ id ∈ t.resources.keys, (isLogicalId id = false ∧ f = .invalidLogicalId id) ∨
      (logicalIdLimit < id.utf8ByteSize ∧ f = .longLogicalId id) := by
  simp only [Template.structureFindings, idFindings, List.mem_append, List.mem_flatMap,
    List.mem_ite_nil_left, List.mem_ite_nil_right, List.mem_singleton, or_assoc, Bool.not_eq_true,
    ne_eq]

lemma code_mem_of_mem_structureFindings (h : f ∈ t.structureFindings) :
    f.code ∈ Pass.structural.codes := by
  rcases mem_structureFindings_iff.mp h with
    ⟨-, rfl⟩ | ⟨-, rfl⟩ | ⟨-, rfl⟩ | ⟨id, -, ⟨-, rfl⟩ | ⟨-, rfl⟩⟩ <;>
    simp [Finding.code, Pass.codes]

lemma mem_propertyFindings_iff {id : String} {r : Resource} {s : Spec}
    (hspec : specOf? r.typeName = some s) : f ∈ propertyFindings id r ↔
      (∃ property ∈ s.required, r.has property = false ∧ .missingProperty id property = f) ∨
      ∃ property value, (property, value) ∈ r.properties.entries ∧
        (s.knows property = false ∧ .unknownProperty id property r.typeName = f ∨
          s.knows property = true ∧ ∃ violation, s.violation? property value = some violation ∧
            .invalidProperty id property violation = f) := by
  have hproperty : ∀ property value, propertyFinding? id r s property value = some f ↔
      (s.knows property = false ∧ .unknownProperty id property r.typeName = f ∨
        s.knows property = true ∧ ∃ violation, s.violation? property value = some violation ∧
          .invalidProperty id property violation = f) := by
    intro property value
    unfold propertyFinding?
    cases s.knows property <;> simp
  simp [propertyFindings, hspec, hproperty, and_assoc]

lemma code_mem_of_mem_propertyFindings {id : String} {r : Resource}
    (h : f ∈ propertyFindings id r) : f.code ∈ Pass.properties.codes := by
  cases hspec : specOf? r.typeName with
  | none =>
    rw [propertyFindings, hspec, List.mem_singleton] at h
    rw [h]
    simp [Finding.code, Pass.codes]
  | some s =>
    rcases (mem_propertyFindings_iff hspec).mp h with
      ⟨_, _, _, rfl⟩ | ⟨_, _, _, ⟨_, rfl⟩ | ⟨_, _, _, rfl⟩⟩ <;> simp [Finding.code, Pass.codes]

lemma mem_dependencyFindings_iff : f ∈ Pass.dependencies.findings p t ↔
    (∃ id r, (id, r) ∈ t.resources.entries ∧ f ∈ t.nameFindings p.maxReferenceDepth id r) ∨
      f ∈ t.outputNameFindings p.maxReferenceDepth ∨
        f ∈ t.cycleFindings p.maxReferenceDepth p.maxDependencyDepth := by
  simp [Pass.findings, Template.resourceNameFindings]

lemma code_mem_of_mem_dependencies (h : f ∈ Pass.dependencies.findings p t) :
    f.code ∈ Pass.dependencies.codes := by
  rcases mem_dependencyFindings_iff.mp h with ⟨id, r, -, h⟩ | h | h
  · rcases Template.mem_nameFindings_iff.mp h with
      ⟨_, _, _, rfl⟩ | ⟨_, _, _, _, _, _, rfl⟩ | ⟨_, rfl⟩ <;> simp [Finding.code, Pass.codes]
  · obtain ⟨_, _, _, _, _, _, rfl⟩ := Template.mem_outputNameFindings_iff.mp h
    simp [Finding.code, Pass.codes]
  · rcases Template.mem_cycleFindings_iff.mp h with ⟨_, _, _, rfl⟩ | ⟨_, rfl⟩ <;>
      simp [Finding.code, Pass.codes]

lemma mem_findingIf {condition : Bool} {finding : Finding} :
    f ∈ findingIf condition finding ↔ condition = true ∧ f = finding := by
  cases condition <;> simp [findingIf]

/-- What good practice finds in a resource of a type in the catalog. -/
lemma mem_practiceFindingsOf_cases {id : String} {r : Resource} {type : ResourceType}
    (h : f ∈ practiceFindingsOf id r type) :
    f = .unencryptedBucket id ∨ f = .unencryptedDatabase id ∨ f = .singleZoneDatabase id ∨
      (∃ seconds, f = .longTimeout id seconds) ∨
      type = .securityGroup ∧ ∃ exposure, f = .openIngress id "SecurityGroupIngress" exposure := by
  cases type with
  | bucket => exact .inl (mem_findingIf.mp h).2
  | database =>
    rcases List.mem_append.mp h with h | h
    · exact .inr (.inl (mem_findingIf.mp h).2)
    · exact .inr (.inr (.inl (mem_findingIf.mp h).2))
  | function =>
    dsimp only [practiceFindingsOf] at h
    split at h
    · next seconds _ => exact .inr (.inr (.inr (.inl ⟨seconds, (mem_findingIf.mp h).2⟩)))
    · exact absurd h List.not_mem_nil
  | securityGroup =>
    obtain ⟨exposure, -, rfl⟩ := List.mem_map.mp h
    exact .inr (.inr (.inr (.inr ⟨rfl, exposure, rfl⟩)))
  | _ => exact absurd h List.not_mem_nil

lemma mem_practiceFindings_cases {id : String} {r : Resource} (h : f ∈ practiceFindings id r) :
    f = .unencryptedBucket id ∨ f = .unencryptedDatabase id ∨ f = .singleZoneDatabase id ∨
      (∃ seconds, f = .longTimeout id seconds) ∨
      ∃ place exposure, f = .openIngress id place exposure := by
  unfold practiceFindings at h
  split at h
  · obtain ⟨exposure, -, rfl⟩ := List.mem_map.mp h
    exact .inr (.inr (.inr (.inr ⟨_, exposure, rfl⟩)))
  · split at h
    · rcases mem_practiceFindingsOf_cases h with h | h | h | h | ⟨-, exposure, h⟩
      · exact .inl h
      · exact .inr (.inl h)
      · exact .inr (.inr (.inl h))
      · exact .inr (.inr (.inr (.inl h)))
      · exact .inr (.inr (.inr (.inr ⟨_, exposure, h⟩)))
    · exact absurd h List.not_mem_nil

lemma code_mem_of_mem_practiceFindings {id : String} {r : Resource}
    (h : f ∈ practiceFindings id r) : f.code ∈ Pass.bestPractices.codes := by
  rcases mem_practiceFindings_cases h with rfl | rfl | rfl | ⟨_, rfl⟩ | ⟨_, _, rfl⟩ <;>
    simp [Finding.code, Pass.codes]

/-- What a pass finds has one of its codes. -/
lemma Pass.code_mem_codes {pass : Pass} (h : f ∈ pass.findings p t) : f.code ∈ pass.codes := by
  cases pass with
  | structural => exact code_mem_of_mem_structureFindings h
  | properties =>
    obtain ⟨⟨id, r⟩, -, h⟩ := List.mem_flatMap.mp h
    exact code_mem_of_mem_propertyFindings h
  | dependencies => exact code_mem_of_mem_dependencies h
  | bestPractices =>
    obtain ⟨⟨id, r⟩, -, h⟩ := List.mem_flatMap.mp h
    exact code_mem_of_mem_practiceFindings h

/-! ## Reports -/

lemma mem_findings_ofFindings {findings : List Finding} :
    f ∈ (Report.ofFindings findings).findings ↔ f ∈ findings := by
  simp only [Report.findings, Report.ofFindings, List.mem_append, List.mem_filter,
    ← and_or_left]
  cases f.isError <;> simp

lemma mem_findings_validate_iff : f ∈ (validate p t).findings ↔
    p.keeps f = true ∧ ∃ pass ∈ p.passes, f ∈ pass.findings p t := by
  rw [validate, mem_findings_ofFindings, List.mem_filter, List.mem_flatMap, and_comm]

/-- What has the code of a pass is reported exactly if that pass finds it and the policy keeps
it. -/
lemma mem_findings_validate_iff_of_mem_codes (pass : Pass) (hcode : f.code ∈ pass.codes)
    (hpass : pass ∈ p.passes) :
    f ∈ (validate p t).findings ↔ p.keeps f = true ∧ f ∈ pass.findings p t := by
  rw [mem_findings_validate_iff]
  refine and_congr_right fun _ => ⟨?_, fun h => ⟨pass, hpass, h⟩⟩
  rintro ⟨other, -, h⟩
  rwa [Pass.eq_of_mem_codes hcode (Pass.code_mem_codes h)]

/-- No policy drops an error. -/
lemma keeps_of_isError (p : Policy) (herror : f.isError = true) : p.keeps f = true := by
  simp [Policy.keeps, herror]

/-- An error is reported exactly if its pass finds it. -/
lemma mem_findings_validate_iff_of_isError (pass : Pass) (herror : f.isError = true)
    (hcode : f.code ∈ pass.codes) (hpass : pass ∈ p.passes) :
    f ∈ (validate p t).findings ↔ f ∈ pass.findings p t := by
  rw [mem_findings_validate_iff_of_mem_codes pass hcode hpass,
    and_iff_right (keeps_of_isError p herror)]

/-- An error about dependencies is reported exactly if it is found at a resource, at an output or on
a circle. -/
lemma mem_findings_validate_iff_of_mem_dependencies (herror : f.isError = true)
    (hcode : f.code ∈ Pass.dependencies.codes) : f ∈ (validate p t).findings ↔
      (∃ id r, (id, r) ∈ t.resources.entries ∧ f ∈ t.nameFindings p.maxReferenceDepth id r) ∨
        f ∈ t.outputNameFindings p.maxReferenceDepth ∨
          f ∈ t.cycleFindings p.maxReferenceDepth p.maxDependencyDepth := by
  have hpass : Pass.dependencies ∈ p.passes := by simp [Policy.passes]
  rw [mem_findings_validate_iff_of_isError .dependencies herror hcode hpass,
    mem_dependencyFindings_iff]

lemma valid_iff_forall_mem_findings : (validate p t).valid = true ↔
    ∀ f ∈ (validate p t).findings, f.isError = false := by
  simp only [validate, mem_findings_ofFindings]
  simp only [Report.valid, Report.ofFindings, List.isEmpty_iff, List.filter_eq_nil_iff,
    Bool.not_eq_true]

/-- A template is valid exactly if no pass finds an error. -/
lemma valid_validate_iff : (validate p t).valid = true ↔
    ∀ pass ∈ p.passes, ∀ f ∈ pass.findings p t, f.isError = false := by
  rw [valid_iff_forall_mem_findings]
  constructor
  · intro h pass hpass f hf
    by_contra herror
    rw [Bool.not_eq_false] at herror
    have hreported : f ∈ (validate p t).findings :=
      mem_findings_validate_iff.mpr ⟨keeps_of_isError p herror, pass, hpass, hf⟩
    rw [h f hreported] at herror
    exact Bool.false_ne_true herror
  · intro h f hf
    obtain ⟨-, pass, hpass, hfound⟩ := mem_findings_validate_iff.mp hf
    exact h pass hpass f hfound

/-- Good practice is no matter of errors. -/
lemma isError_eq_false_of_code_mem (h : f.code ∈ Pass.bestPractices.codes) :
    f.isError = false := by
  unfold Finding.isError
  revert h
  cases f.code <;> decide

lemma isError_eq_false_of_mem_bestPractices (h : f ∈ Pass.bestPractices.findings p t) :
    f.isError = false :=
  isError_eq_false_of_code_mem (Pass.code_mem_codes h)

end CloudTemplate
