import CloudTemplate.Proofs.Reference.Within
import CloudTemplate.Proofs.Validation.Verdict
import CloudTemplate.Proofs.Value.Basic

/-!
# References that lead nowhere

A reference that leads nowhere makes a finding, provided that the scan comes to it.  What the scan
does not come to should not pass in silence.  In properties it does not: a resource whose
properties are too deep makes a finding of its own (`referenceDepth_mem_findings_iff`), so that
without it every reference was looked at.  Outputs make no such finding.  A reference in an output
is looked at exactly if it lies within the limit (`danglingOutput_mem_findings_iff`), and one that
lies deeper leaves no trace in the report.
-/

namespace CloudTemplate

variable {p : Policy} {t : Template}

lemma danglingOutput_mem_findings_iff {name : String} {reference : Reference} :
    .danglingOutput name reference ∈ (validate p t).findings ↔
      ∃ output, (name, output) ∈ t.outputs.entries ∧
        output.value.MentionsWithin p.maxReferenceDepth reference ∧ ¬ t.Resolves reference := by
  rw [mem_findings_validate_iff_of_mem_dependencies rfl (by simp [Finding.code, Pass.codes])]
  simp [Template.mem_nameFindings_iff, Template.mem_outputNameFindings_iff,
    Template.mem_cycleFindings_iff, PropertyValue.mem_scan_iff_within]

/-- Properties that are too deep are reported unless the policy drops that. -/
lemma referenceDepth_mem_findings_iff {id : String} :
    .referenceDepth id p.maxReferenceDepth ∈ (validate p t).findings ↔
      Code.referenceDepth.text ∉ p.suppress ∧
        ∃ r, (id, r) ∈ t.resources.entries ∧ ¬ r.Scannable p.maxReferenceDepth := by
  rw [mem_findings_validate_iff_of_mem_codes .dependencies
    (by simp [Finding.code, Pass.codes]) (by simp [Policy.passes])]
  refine and_congr ?_ ?_
  · simp [Policy.keeps, Finding.isError, Finding.code, Code.isError]
  · simp [mem_dependencyFindings_iff, Template.mem_nameFindings_iff,
      Template.mem_outputNameFindings_iff, Template.mem_cycleFindings_iff]

/-- If no resource is reported to be too deep, and the policy would let that be reported, then all
properties are scanned whole. -/
lemma scannable_of_no_referenceDepth (hsuppress : p.suppress = [])
    (hwhole : ∀ f ∈ (validate p t).findings, f.code.text ≠ "W3001") {id : String} {r : Resource}
    (hr : (id, r) ∈ t.resources.entries) : r.Scannable p.maxReferenceDepth := by
  by_contra hdeep
  have hreported : .referenceDepth id p.maxReferenceDepth ∈ (validate p t).findings := by
    rw [referenceDepth_mem_findings_iff, hsuppress]
    exact ⟨List.not_mem_nil, r, hr, hdeep⟩
  exact hwhole _ hreported rfl

lemma mem_errors_validate_iff {f : Finding} (herror : f.isError = true) :
    f ∈ (validate p t).errors ↔ f ∈ (validate p t).findings := by
  rw [validate, mem_findings_ofFindings, Report.ofFindings, List.mem_filter]
  exact and_iff_left herror

/-- Suppose that nothing is suppressed and no resource is reported to be too deep (`W3001`).  Then
every reference in a property leads somewhere or is reported (`E3002`).  A reference in an output
that leads nowhere is reported (`E3004`) just if it lies within the limit of the scan. -/
theorem resolves_or_reported (p : Policy) (t : Template) (hsuppress : p.suppress = [])
    (hwhole : ∀ f ∈ (validate p t).findings, f.code.text ≠ "W3001") :
    (∀ id r, (id, r) ∈ t.resources.entries →
      ∀ property value, (property, value) ∈ r.properties.entries →
        ∀ reference, value.Mentions reference →
          t.Resolves reference ∨
            .danglingReference id property reference ∈ (validate p t).errors) ∧
      ∀ name output, (name, output) ∈ t.outputs.entries →
        ∀ reference, output.value.Mentions reference →
          (t.Resolves reference ∨ .danglingOutput name reference ∈ (validate p t).errors ↔
            t.Resolves reference ∨
              output.value.MentionsWithin p.maxReferenceDepth reference) := by
  constructor
  · intro id r hr property value hvalue reference hmentions
    by_cases hresolves : t.Resolves reference
    · exact .inl hresolves
    · right
      have hscannable := scannable_of_no_referenceDepth hsuppress hwhole hr
      have hfound := (PropertyValue.mem_scan_iff (hscannable property value hvalue)).mpr hmentions
      rw [mem_errors_validate_iff (by rfl), danglingReference_mem_findings_iff]
      exact ⟨r, hr, value, hvalue, hfound, hresolves⟩
  · intro name output houtput reference _
    by_cases hresolves : t.Resolves reference
    · simp only [hresolves, true_or]
    · rw [mem_errors_validate_iff (by rfl), danglingOutput_mem_findings_iff]
      simp only [hresolves, false_or, not_false_eq_true, and_true]
      constructor
      · rintro ⟨other, hother, hwithin⟩
        have hsame := List.inj_on_of_nodup_map t.outputs.distinct hother houtput rfl
        rwa [(Prod.mk.inj hsame).2] at hwithin
      · exact fun hwithin => ⟨output, houtput, hwithin⟩

/-- Each list is one level more. -/
lemma PropertyValue.mentionsWithin_inLists {v : PropertyValue} {r : Reference} {limit : Nat}
    (h : v.MentionsWithin limit r) (n : Nat) : (v.inLists n).MentionsWithin (limit + n) r := by
  induction n with
  | zero => exact h
  | succ n ih => exact .part (List.mem_singleton_self _) ih

/-- A template that names a resource which is not there: in a property, in an output inside as many
lists as a scan enters unless told otherwise, and in an output inside one list more. -/
def farTemplate : Template where
  formatVersion := formatVersion
  description := "Far"
  resources := .ofList
    [("Topic", ⟨"AWS::SNS::Topic", .ofList [("TopicName", .ref "Missing")], []⟩)]
  outputs := .ofList [("Near", ⟨(PropertyValue.ref "Missing").inLists 64, none⟩),
    ("Far", ⟨(PropertyValue.ref "Missing").inLists 65, none⟩)]

/-- The report has the property and the nearer output. -/
lemma validate_farTemplate :
    validate {} farTemplate = ⟨[.danglingReference "Topic" "TopicName" (.ref "Missing"),
      .danglingOutput "Near" (.ref "Missing")], []⟩ := by
  decide +kernel

lemma mentionsWithin_missing : (PropertyValue.ref "Missing").MentionsWithin 0 (.ref "Missing") :=
  .own (List.mem_singleton_self _)

lemma not_resolves_missing : ¬ farTemplate.Resolves (.ref "Missing") := by
  rw [← Template.resolves_eq_true_iff]
  decide

/-- The reference in the property and the one in the nearer output are reported. -/
theorem resolves_or_reported_farTemplate :
    ({} : Policy).suppress = [] ∧
      (∀ f ∈ (validate {} farTemplate).findings, f.code.text ≠ "W3001") ∧
      .danglingReference "Topic" "TopicName" (.ref "Missing") ∈ (validate {} farTemplate).errors ∧
      .danglingOutput "Near" (.ref "Missing") ∈ (validate {} farTemplate).errors := by
  have hwhole : ∀ f ∈ (validate {} farTemplate).findings, f.code.text ≠ "W3001" := by
    rw [validate_farTemplate]
    decide
  obtain ⟨hproperties, houtputs⟩ := resolves_or_reported {} farTemplate rfl hwhole
  refine ⟨rfl, hwhole, ?property, ?output⟩
  case property =>
    have hreported := hproperties "Topic"
      ⟨"AWS::SNS::Topic", .ofList [("TopicName", .ref "Missing")], []⟩ (by decide)
      "TopicName" (.ref "Missing") (by decide) (.ref "Missing") mentionsWithin_missing.mentions
    exact hreported.resolve_left not_resolves_missing
  case output =>
    have hwithin := PropertyValue.mentionsWithin_inLists mentionsWithin_missing 64
    have hreported := houtputs "Near" ⟨(PropertyValue.ref "Missing").inLists 64, none⟩ (by decide)
      (.ref "Missing") hwithin.mentions
    exact (hreported.mpr (.inr hwithin)).resolve_left not_resolves_missing

/-- Nothing is suppressed and no resource is reported to be too deep, yet the farther output names a
resource which is not there, and that is not reported. -/
theorem danglingOutput_farOutput_not_reported :
    ({} : Policy).suppress = [] ∧
      (∀ f ∈ (validate {} farTemplate).findings, f.code.text ≠ "W3001") ∧
      ∃ output, ("Far", output) ∈ farTemplate.outputs.entries ∧
        output.value.Mentions (.ref "Missing") ∧ ¬ farTemplate.Resolves (.ref "Missing") ∧
        .danglingOutput "Far" (.ref "Missing") ∉ (validate {} farTemplate).errors := by
  refine ⟨rfl, ?whole, ⟨(PropertyValue.ref "Missing").inLists 65, none⟩, ?there, ?mentioned,
    not_resolves_missing, ?missed⟩
  case whole =>
    rw [validate_farTemplate]
    decide
  case there => decide
  case mentioned =>
    exact (PropertyValue.mentionsWithin_inLists mentionsWithin_missing 65).mentions
  case missed =>
    rw [validate_farTemplate]
    decide

end CloudTemplate
