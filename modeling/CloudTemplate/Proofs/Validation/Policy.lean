import CloudTemplate.Proofs.Validation.Report

/-!
# What a policy changes in a report

A policy says how deep a validation looks and which warnings are of interest.  The two are kept
apart: among policies that look equally deep, each report is a part of the report under the one that
drops nothing (`Policy.candid`).  What is taken away are warnings alone, those with a suppressed
code and, if good practice is not looked at, those that only good practice gives.

`allFindings` are the findings before anything is dropped; they depend on the depths of the policy
and on nothing else of it (`allFindings_congr`).  Skipping the last pass is the same as dropping
what it finds (`flatMap_passes_eq`), because the passes share no code.  The errors and the warnings
of a report are then two filters of one list (`errors_validate`, `warnings_validate`).
-/

namespace CloudTemplate

variable {p q : Policy} {t : Template} {f : Finding}

/-! ## Codes -/

namespace Code

/-- The first letter of a code tells errors from warnings. -/
lemma isError_eq_beginsWith (c : Code) : c.isError = beginsWith c.text "E" := by
  cases c <;> decide

/-- The texts of the codes of good practice. -/
def practiceTexts : List String := ["W4001", "W4002", "W4003", "W4004", "W4005"]

lemma text_mem_practiceTexts_iff {c : Code} :
    c.text ∈ practiceTexts ↔ c ∈ Pass.bestPractices.codes := by
  cases c <;> decide

end Code

/-- The codes of good practice come from no other pass. -/
lemma Pass.text_mem_practiceTexts_iff {pass : Pass} (h : f ∈ pass.findings p t) :
    f.code.text ∈ Code.practiceTexts ↔ pass = .bestPractices := by
  rw [Code.text_mem_practiceTexts_iff]
  have hcode := Pass.code_mem_codes h
  constructor
  · exact fun hpractice => Pass.eq_of_mem_codes hcode hpractice
  · rintro rfl
    exact hcode

/-! ## Before anything is dropped -/

/-- The policy that looks as deep as another and drops nothing. -/
def Policy.candid (p : Policy) : Policy := { p with suppress := [], bestPractices := true }

/-- All that the passes find. -/
def allFindings (p : Policy) (t : Template) : List Finding :=
  p.candid.passes.flatMap (Pass.findings p t)

lemma Pass.findings_congr (hreferences : p.maxReferenceDepth = q.maxReferenceDepth)
    (hdependencies : p.maxDependencyDepth = q.maxDependencyDepth) :
    Pass.findings p t = Pass.findings q t := by
  funext pass
  cases pass <;> simp only [Pass.findings, hreferences, hdependencies]

lemma allFindings_congr (hreferences : p.maxReferenceDepth = q.maxReferenceDepth)
    (hdependencies : p.maxDependencyDepth = q.maxDependencyDepth) :
    allFindings p t = allFindings q t := by
  rw [allFindings, allFindings, Pass.findings_congr hreferences hdependencies]
  rfl

/-- A policy looks for a finding: it is none of good practice, or good practice is looked at. -/
def Policy.LooksFor (p : Policy) (f : Finding) : Prop :=
  p.bestPractices = false → f.code.text ∉ Code.practiceTexts

instance (p : Policy) : DecidablePred p.LooksFor := fun f => by
  unfold Policy.LooksFor
  infer_instance

/-- Skipping good practice is dropping what it finds. -/
lemma flatMap_passes_eq (p : Policy) (t : Template) :
    p.passes.flatMap (Pass.findings p t) = (allFindings p t).filter (p.LooksFor ·) := by
  have hothers : ∀ pass : Pass, pass ≠ .bestPractices →
      (pass.findings p t).filter (p.LooksFor ·) = pass.findings p t := by
    intro pass hpass
    rw [List.filter_eq_self]
    intro f hf
    rw [decide_eq_true_eq]
    exact fun _ hpractice => hpass ((Pass.text_mem_practiceTexts_iff hf).mp hpractice)
  have hpractice : (Pass.bestPractices.findings p t).filter (p.LooksFor ·) =
      if p.bestPractices then Pass.bestPractices.findings p t else [] := by
    by_cases hlooked : p.bestPractices = true
    · simp [Policy.LooksFor, hlooked]
    · rw [if_neg hlooked, List.filter_eq_nil_iff]
      intro f hf
      rw [decide_eq_true_eq]
      exact fun h => h (Bool.eq_false_of_not_eq_true hlooked)
        ((Pass.text_mem_practiceTexts_iff hf).mpr rfl)
  simp only [allFindings, Policy.passes, Policy.candid, if_true, List.flatMap_append,
    List.flatMap_cons, List.flatMap_nil, List.append_nil, List.filter_append, hpractice,
    hothers .structural (by decide), hothers .properties (by decide),
    hothers .dependencies (by decide)]
  by_cases hlooked : p.bestPractices = true
  · simp [hlooked]
  · simp [hlooked]

/-! ## The two halves of a report -/

/-- The errors are all errors that there are, whatever the policy drops. -/
lemma errors_validate (p : Policy) (t : Template) :
    (validate p t).errors = (allFindings p t).filter Finding.isError := by
  rw [validate, Report.ofFindings, flatMap_passes_eq]
  simp only [List.filter_filter]
  refine List.filter_congr fun f _ => ?_
  by_cases herror : f.isError = true
  · have hlooked : p.LooksFor f := by
      intro _ hpractice
      rw [isError_eq_false_of_code_mem (Code.text_mem_practiceTexts_iff.mp hpractice)] at herror
      exact Bool.false_ne_true herror
    simp [Policy.keeps, herror, hlooked]
  · simp [herror]

/-- The warnings are those that are neither suppressed nor left out. -/
lemma warnings_validate (p : Policy) (t : Template) :
    (validate p t).warnings = ((allFindings p t).filter fun f => !f.isError).filter fun f =>
      f.code.text ∉ p.suppress ∧ p.LooksFor f := by
  rw [validate, Report.ofFindings, flatMap_passes_eq]
  simp only [List.filter_filter]
  refine List.filter_congr fun f _ => ?_
  by_cases herror : f.isError = true
  · simp [herror]
  · simp [Policy.keeps, herror]

lemma warnings_validate_candid (p : Policy) (t : Template) :
    (validate p.candid t).warnings = (allFindings p t).filter fun f => !f.isError := by
  have hsame : allFindings p.candid t = allFindings p t := rfl
  rw [warnings_validate, hsame, List.filter_eq_self]
  intro f _
  simp [Policy.candid, Policy.LooksFor]

lemma mem_errors_ofFindings_iff {findings : List Finding}
    (h : f ∈ (Report.ofFindings findings).findings) :
    f ∈ (Report.ofFindings findings).errors ↔ beginsWith f.code.text "E" = true := by
  rw [mem_findings_ofFindings] at h
  rw [Report.ofFindings, List.mem_filter, Finding.isError, Code.isError_eq_beginsWith]
  exact and_iff_right h

/-- Policies that look equally deep agree on the errors and on the verdict.  The warnings under a
policy are those under the one that drops nothing, in the same order, less those with a suppressed
code and, without good practice, those of good practice.  In the report of every template and of
every text, the errors are the findings whose code begins with `E`. -/
theorem validate_policies (t : Template) (p q : Policy)
    (hreferences : p.maxReferenceDepth = q.maxReferenceDepth)
    (hdependencies : p.maxDependencyDepth = q.maxDependencyDepth) :
    (validate p t).errors = (validate q t).errors ∧
      (validate p t).valid = (validate q t).valid ∧
      ((validate p t).warnings =
        (validate { p with suppress := [], bestPractices := true } t).warnings.filter fun f =>
          f.code.text ∉ p.suppress ∧ (p.bestPractices = false →
            f.code.text ∉ ["W4001", "W4002", "W4003", "W4004", "W4005"])) ∧
      (∀ f ∈ (validate p t).findings,
        f ∈ (validate p t).errors ↔ beginsWith f.code.text "E" = true) ∧
      ∀ text, ∀ f ∈ (validateText p text).findings,
        f ∈ (validateText p text).errors ↔ beginsWith f.code.text "E" = true := by
  have herrors : (validate p t).errors = (validate q t).errors := by
    rw [errors_validate, errors_validate, allFindings_congr hreferences hdependencies]
  refine ⟨herrors, ?valid, ?warnings, fun f hf => mem_errors_ofFindings_iff hf, ?text⟩
  case valid => rw [Report.valid, herrors, ← Report.valid]
  case warnings =>
    have hcandid := warnings_validate_candid p t
    rw [warnings_validate, ← hcandid]
    rfl
  case text =>
    intro text f hf
    unfold validateText at hf ⊢
    split at hf
    · exact mem_errors_ofFindings_iff hf
    · exact mem_errors_ofFindings_iff hf

/-- A template with an error, a warning of the catalog and one of good practice. -/
def roughTemplate : Template where
  formatVersion := formatVersion
  description := "Rough"
  resources := .ofList [("Store", ⟨"AWS::S3::Bucket", .empty, ["Missing"]⟩),
    ("Site", .ofType "Custom::Site")]

/-- A policy that asks to drop an error and a warning, and leaves good practice out. -/
def tersePolicy : Policy where
  suppress := ["E3001", "W2001"]
  bestPractices := false

/-- The error stays, and both warnings go. -/
theorem validate_policies_roughTemplate :
    tersePolicy.maxReferenceDepth = ({} : Policy).maxReferenceDepth ∧
      tersePolicy.maxDependencyDepth = ({} : Policy).maxDependencyDepth ∧
      (validate {} roughTemplate).errors = [.danglingDependency "Store" "Missing"] ∧
      (validate {} roughTemplate).warnings =
        [.unknownType "Site" "Custom::Site", .unencryptedBucket "Store"] ∧
      (validate tersePolicy roughTemplate).errors = [.danglingDependency "Store" "Missing"] ∧
      (validate tersePolicy roughTemplate).warnings = [] := by
  obtain ⟨herrors, -, hwarnings, -⟩ := validate_policies roughTemplate tersePolicy {} rfl rfl
  have hfound : (validate {} roughTemplate).errors = [.danglingDependency "Store" "Missing"] := by
    decide +kernel
  have hwarned : (validate {} roughTemplate).warnings =
      [.unknownType "Site" "Custom::Site", .unencryptedBucket "Store"] := by decide +kernel
  refine ⟨rfl, rfl, hfound, hwarned, herrors.trans hfound, ?_⟩
  have hcandid : (validate { tersePolicy with suppress := [], bestPractices := true }
      roughTemplate).warnings = (validate {} roughTemplate).warnings := rfl
  rw [hwarnings, hcandid, hwarned]
  decide

end CloudTemplate
