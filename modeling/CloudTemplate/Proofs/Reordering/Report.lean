import CloudTemplate.Proofs.Dependency.Order
import CloudTemplate.Proofs.Reordering.Catalog
import CloudTemplate.Proofs.Reordering.Scan
import CloudTemplate.Proofs.Validation.Report

/-!
# Reports on reordered templates

Editors and tools write the entries of a template in whatever order, and a report should not depend
on it.  It does not, circles apart: the search for circles follows another path for each order and
may come upon other circles.  But whether there are any is a matter of the edges alone, and those
are the same (`Template.Reordered.cycleFindings_eq_nil_iff`).

`settledFindings` are the findings that make no use of the search.  They are the same up to order
for a reordered template (`Template.Reordered.settledFindings_perm`), and a report consists of them
and of circles, if the search is not cut short.
-/

namespace CloudTemplate

namespace Template.Reordered

variable {t t' : Template}

lemma mem_keys_iff (h : Reordered t t') {id : String} :
    id ∈ t.resources.keys ↔ id ∈ t'.resources.keys :=
  h.resources.keys_perm.mem_iff

lemma contains_eq (h : Reordered t t') (id : String) :
    t.resources.contains id = t'.resources.contains id := by
  rw [Bool.eq_iff_iff, Table.contains_eq_true_iff, Table.contains_eq_true_iff, h.mem_keys_iff]

lemma resolves_eq (h : Reordered t t') (reference : Reference) :
    t.resolves reference = t'.resolves reference := by
  have hparameters : reference.target ∈ t.parameters.keys ↔ reference.target ∈ t'.parameters.keys :=
    h.parameters.keys_perm.mem_iff
  rw [Bool.eq_iff_iff, resolves_eq_true_iff, resolves_eq_true_iff, Resolves, Resolves,
    h.mem_keys_iff, hparameters]

/-! ## Findings about names -/

/-- References that lead nowhere are found in both scans. -/
lemma unresolved_perm (h : Reordered t t') {v w : PropertyValue}
    (hvalue : PropertyValue.Reordered v w) (limit : Nat) :
    ((scan limit v).references.filter fun reference => !t.resolves reference).Perm
      ((scan limit w).references.filter fun reference => !t'.resolves reference) := by
  simp only [h.resolves_eq]
  exact (PropertyValue.references_scan_perm hvalue).filter _

lemma any_truncated_eq {r r' : Resource} (h : Resource.Reordered r r') (limit : Nat) :
    ((r.scans limit).any fun (_, s) => s.truncated) =
      (r'.scans limit).any fun (_, s) => s.truncated := by
  obtain ⟨hleft, hright⟩ := h.properties.exists_of_mem
  rw [Bool.eq_iff_iff]
  simp only [Resource.scans, List.any_map, List.any_eq_true, Function.comp_apply, Prod.exists]
  constructor
  · rintro ⟨property, v, hmem, htruncated⟩
    obtain ⟨w, hother, hrel⟩ := hleft property v hmem
    exact ⟨property, w, hother, PropertyValue.truncated_scan_eq hrel ▸ htruncated⟩
  · rintro ⟨property, w, hmem, htruncated⟩
    obtain ⟨v, hentry, hrel⟩ := hright property w hmem
    exact ⟨property, v, hentry, PropertyValue.truncated_scan_eq hrel ▸ htruncated⟩

lemma nameFindings_perm (h : Reordered t t') {r r' : Resource} (hr : Resource.Reordered r r')
    (limit : Nat) (id : String) :
    (t.nameFindings limit id r).Perm (t'.nameFindings limit id r') := by
  simp only [nameFindings]
  refine (List.Perm.append ?_ ?_).append ?_
  · rw [hr.dependsOn]
    simp only [h.contains_eq]
    exact .refl _
  · simp only [Resource.scans, List.flatMap_map]
    apply hr.properties.flatMap_perm
    intro property v w _ hrel
    exact (h.unresolved_perm hrel limit).map _
  · rw [any_truncated_eq hr]

lemma resourceNameFindings_perm (h : Reordered t t') (limit : Nat) :
    (t.resourceNameFindings limit).Perm (t'.resourceNameFindings limit) := by
  apply h.resources.flatMap_perm
  intro id r r' _ hr
  exact h.nameFindings_perm hr limit id

lemma outputNameFindings_perm (h : Reordered t t') (limit : Nat) :
    (t.outputNameFindings limit).Perm (t'.outputNameFindings limit) := by
  apply h.outputs.flatMap_perm
  intro name o o' _ ho
  exact (h.unresolved_perm ho.value limit).map _

/-! ## Other findings that are not about circles -/

lemma structureFindings_perm (h : Reordered t t') :
    t.structureFindings.Perm t'.structureFindings := by
  have hempty : t.resources.isEmpty = t'.resources.isEmpty := by
    rw [Bool.eq_iff_iff, Table.isEmpty, Table.isEmpty, List.isEmpty_iff_length_eq_zero,
      List.isEmpty_iff_length_eq_zero, h.resources.length_eq]
  unfold structureFindings
  rw [h.formatVersion, h.description, hempty]
  exact (h.resources.keys_perm.flatMap_right _).append_left _

end Template.Reordered

namespace Template

/-- The findings of a validation that make no use of the search for circles. -/
def settledFindings (p : Policy) (t : Template) : List Finding :=
  t.structureFindings ++ (t.resources.entries.flatMap fun (id, r) => propertyFindings id r) ++
    t.resourceNameFindings p.maxReferenceDepth ++ t.outputNameFindings p.maxReferenceDepth ++
    if p.bestPractices then t.resources.entries.flatMap fun (id, r) => practiceFindings id r else []

lemma Reordered.settledFindings_perm {t t' : Template} (h : Reordered t t') (hnamed : t.WellNamed)
    (p : Policy) : (t.settledFindings p).Perm (t'.settledFindings p) := by
  unfold settledFindings
  refine (((List.Perm.append ?_ ?_).append ?_).append ?_).append ?_
  · exact h.structureFindings_perm
  · apply h.resources.flatMap_perm
    intro id r r' hmem hr
    exact hr.propertyFindings_perm (hnamed.resources id r hmem) id
  · exact h.resourceNameFindings_perm _
  · exact h.outputNameFindings_perm _
  · split
    · apply h.resources.flatMap_perm
      intro id r r' hmem hr
      exact .of_eq (hr.practiceFindings_eq (hnamed.resources id r hmem) id)
    · exact .refl _

variable {p : Policy} {t : Template} {f : Finding}

/-- The passes find what is settled and, in the middle of it, circles. -/
lemma flatMap_passes_perm (p : Policy) (t : Template) :
    (p.passes.flatMap (Pass.findings p t)).Perm
      (t.settledFindings p ++ t.cycleFindings p.maxReferenceDepth p.maxDependencyDepth) := by
  simp only [Policy.passes, settledFindings, List.flatMap_append, List.flatMap_cons,
    List.flatMap_nil, List.append_nil, Pass.findings, List.append_assoc]
  refine .append_left _ (.append_left _ (.append_left _ (.append_left _ ?_)))
  cases p.bestPractices with
  | false => simp
  | true => simpa [Pass.findings] using List.perm_append_comm

lemma code_ne_of_mem_settledFindings (h : f ∈ t.settledFindings p) :
    f.code ≠ .circularDependency := by
  have hother : ∀ pass : Pass, pass ≠ .dependencies → f ∈ pass.findings p t →
      f.code ≠ .circularDependency := by
    intro pass hpass hmem hcode
    have hown : f.code ∈ Pass.dependencies.codes := by simp [hcode, Pass.codes]
    exact hpass (Pass.eq_of_mem_codes (Pass.code_mem_codes hmem) hown)
  simp only [settledFindings, List.mem_append] at h
  rcases h with (((h | h) | h) | h) | h
  · exact hother .structural (by decide) h
  · exact hother .properties (by decide) h
  · obtain ⟨⟨id, r⟩, -, h⟩ := List.mem_flatMap.mp h
    rcases mem_nameFindings_iff.mp h with ⟨_, _, _, rfl⟩ | ⟨_, _, _, _, _, _, rfl⟩ | ⟨_, rfl⟩ <;>
      simp [Finding.code]
  · obtain ⟨_, _, _, _, _, _, rfl⟩ := mem_outputNameFindings_iff.mp h
    simp [Finding.code]
  · split at h
    · exact hother .bestPractices (by decide) h
    · exact absurd h List.not_mem_nil

/-! ## Circles -/

variable {referenceLimit dependencyLimit : Nat}

/-- A search that is not cut short finds circles alone. -/
lemma code_of_mem_cycleFindings (hlimit : t.resources.size ≤ dependencyLimit)
    (h : f ∈ t.cycleFindings referenceLimit dependencyLimit) : f.code = .circularDependency := by
  have hwhole : (findCycles (t.dependencyGraph referenceLimit) dependencyLimit).truncated = false :=
    CycleSearch.truncated_outcome_eq_false (fun _ _ => mem_keys_of_edge_dependencyGraph)
      (by rwa [size_dependencyGraph])
  rcases mem_cycleFindings_iff.mp h with ⟨first, more, -, rfl⟩ | ⟨hcut, -⟩
  · rfl
  · rw [hwhole] at hcut
    exact absurd hcut Bool.false_ne_true

lemma cycleFindings_eq_nil_iff (hlimit : t.resources.size ≤ dependencyLimit) :
    t.cycleFindings referenceLimit dependencyLimit = [] ↔
      ∃ order, (t.dependencyGraph referenceLimit).IsOrder order := by
  have hsize : (t.dependencyGraph referenceLimit).size ≤ dependencyLimit := by
    rwa [size_dependencyGraph]
  rw [← CycleSearch.paths_eq_nil_iff_exists_order
    (fun _ _ => mem_keys_of_edge_dependencyGraph) hsize, List.eq_nil_iff_forall_not_mem,
    List.eq_nil_iff_forall_not_mem]
  constructor
  · intro h path hpath
    obtain ⟨first, rest, rfl⟩ := (CycleSearch.isCircle_of_mem_paths hpath).exists_closedPath
    exact h _ (mem_cycleFindings_iff.mpr (.inl ⟨first, rest ++ [first], hpath, rfl⟩))
  · intro h f hf
    have hcode := code_of_mem_cycleFindings hlimit hf
    rcases mem_cycleFindings_iff.mp hf with ⟨first, more, hpath, rfl⟩ | ⟨-, rfl⟩
    · exact h _ hpath
    · exact absurd hcode (by simp [Finding.code])

namespace Reordered

variable {t' : Template}

lemma usedNames_perm {r r' : Resource} (h : Resource.Reordered r r') (limit : Nat) :
    (r.usedNames limit).Perm (r'.usedNames limit) := by
  unfold Resource.usedNames
  rw [h.dependsOn]
  apply List.Perm.append_left
  simp only [Resource.scans, List.flatMap_map]
  apply h.properties.flatMap_perm
  intro property v w _ hrel
  exact (PropertyValue.references_scan_perm hrel).map _

lemma edge_iff (h : Reordered t t') {a b : String} :
    (t.dependencyGraph referenceLimit).Edge a b ↔ (t'.dependencyGraph referenceLimit).Edge a b := by
  obtain ⟨hleft, hright⟩ := h.resources.exists_of_mem
  rw [edge_iff_mem_usedNames, edge_iff_mem_usedNames, h.mem_keys_iff]
  constructor
  · rintro ⟨r, hr, hused, hkey⟩
    obtain ⟨r', hr', hrel⟩ := hleft a r hr
    exact ⟨r', hr', (usedNames_perm hrel referenceLimit).mem_iff.mp hused, hkey⟩
  · rintro ⟨r', hr', hused, hkey⟩
    obtain ⟨r, hr, hrel⟩ := hright a r' hr'
    exact ⟨r, hr, (usedNames_perm hrel referenceLimit).mem_iff.mpr hused, hkey⟩

lemma isOrder_iff (h : Reordered t t') {order : List String} :
    (t.dependencyGraph referenceLimit).IsOrder order ↔
      (t'.dependencyGraph referenceLimit).IsOrder order := by
  have hkeys : (t.dependencyGraph referenceLimit).keys.Perm
      (t'.dependencyGraph referenceLimit).keys := by
    rw [keys_dependencyGraph, keys_dependencyGraph]
    exact h.resources.keys_perm
  unfold DependencyGraph.IsOrder
  simp only [h.edge_iff]
  exact and_congr ⟨fun horder => horder.trans hkeys, fun horder => horder.trans hkeys.symm⟩ Iff.rfl

/-- Whether there are circles does not depend on the order of entries. -/
lemma cycleFindings_eq_nil_iff (h : Reordered t t')
    (hlimit : t.resources.size ≤ dependencyLimit) :
    t.cycleFindings referenceLimit dependencyLimit = [] ↔
      t'.cycleFindings referenceLimit dependencyLimit = [] := by
  have hlimit' : t'.resources.size ≤ dependencyLimit := by
    rwa [Table.size, ← h.resources.length_eq]
  rw [Template.cycleFindings_eq_nil_iff hlimit, Template.cycleFindings_eq_nil_iff hlimit']
  exact exists_congr fun _ => h.isOrder_iff

end Reordered

end Template

/-! ## Reports -/

section Reports

variable {p : Policy} {t : Template} {f : Finding}

lemma text_eq_iff_circularDependency : f.code.text = "E3003" ↔ f.code = .circularDependency := by
  cases f.code <;> simp [Code.text]

/-- A report has what is settled and circles, less what the policy drops. -/
lemma findings_validate_perm (p : Policy) (t : Template) :
    (validate p t).findings.Perm
      ((t.settledFindings p).filter p.keeps ++
        (t.cycleFindings p.maxReferenceDepth p.maxDependencyDepth).filter p.keeps) := by
  rw [← List.filter_append]
  exact (List.filter_append_perm _ _).trans ((Template.flatMap_passes_perm p t).filter _)

/-- Circles apart, a report has what is settled. -/
lemma filter_findings_perm (hlimit : t.resources.size ≤ p.maxDependencyDepth) :
    ((validate p t).findings.filter fun f => f.code.text ≠ "E3003").Perm
      ((t.settledFindings p).filter p.keeps) := by
  have hsettled : ((t.settledFindings p).filter p.keeps).filter (fun f => f.code.text ≠ "E3003") =
      (t.settledFindings p).filter p.keeps := by
    rw [List.filter_eq_self]
    intro f hf
    rw [decide_eq_true_eq, ne_eq, text_eq_iff_circularDependency]
    exact Template.code_ne_of_mem_settledFindings (List.mem_of_mem_filter hf)
  have hcircles : ((t.cycleFindings p.maxReferenceDepth p.maxDependencyDepth).filter
      p.keeps).filter (fun f => f.code.text ≠ "E3003") = [] := by
    rw [List.filter_eq_nil_iff]
    intro f hf
    rw [decide_eq_true_eq, not_not, text_eq_iff_circularDependency]
    exact Template.code_of_mem_cycleFindings hlimit (List.mem_of_mem_filter hf)
  refine ((findings_validate_perm p t).filter _).trans (.of_eq ?_)
  rw [List.filter_append, hsettled, hcircles, List.append_nil]

/-- A circle is reported exactly if the search finds one. -/
lemma exists_circle_iff (hlimit : t.resources.size ≤ p.maxDependencyDepth) :
    (∃ f ∈ (validate p t).findings, f.code.text = "E3003") ↔
      t.cycleFindings p.maxReferenceDepth p.maxDependencyDepth ≠ [] := by
  simp only [text_eq_iff_circularDependency, (findings_validate_perm p t).mem_iff, List.mem_append,
    List.mem_filter]
  constructor
  · rintro ⟨f, ⟨hsettled, -⟩ | ⟨hcircle, -⟩, hcode⟩
    · exact absurd hcode (Template.code_ne_of_mem_settledFindings hsettled)
    · exact List.ne_nil_of_mem hcircle
  · intro hne
    obtain ⟨f, hcircle⟩ := List.exists_mem_of_ne_nil _ hne
    have hcode : f.code = .circularDependency := Template.code_of_mem_cycleFindings hlimit hcircle
    have herror : f.isError = true := by simp [Finding.isError, hcode, Code.isError]
    exact ⟨f, .inr ⟨hcircle, keeps_of_isError p herror⟩, hcode⟩

/-- A template is valid exactly if no circle is reported and no other error. -/
lemma valid_iff_of_circles : (validate p t).valid = true ↔
    (∀ f ∈ (validate p t).findings.filter fun f => f.code.text ≠ "E3003", f.isError = false) ∧
      ¬ ∃ f ∈ (validate p t).findings, f.code.text = "E3003" := by
  rw [valid_iff_forall_mem_findings]
  simp only [List.mem_filter, decide_eq_true_eq, not_exists, not_and]
  constructor
  · intro h
    refine ⟨fun f hf => h f hf.1, fun f hf hcode => ?_⟩
    have herror : f.isError = true := by
      rw [Finding.isError, text_eq_iff_circularDependency.mp hcode]
      rfl
    rw [h f hf] at herror
    exact Bool.false_ne_true herror
  · rintro ⟨hother, hcircle⟩ f hf
    exact hother f ⟨hf, hcircle f hf⟩

end Reports

/-- The report of a reordered template is the same up to the order of findings and the circles that
are told; circles are found in both templates or in none. -/
theorem validate_reordered (p : Policy) (t t' : Template) (hnamed : t.WellNamed)
    (hreordered : t.Reordered t') (hlimit : t.resources.size ≤ p.maxDependencyDepth) :
    (validate p t).valid = (validate p t').valid ∧
      ((validate p t).findings.filter fun f => f.code.text ≠ "E3003").Perm
        ((validate p t').findings.filter fun f => f.code.text ≠ "E3003") ∧
      ((∃ f ∈ (validate p t).findings, f.code.text = "E3003") ↔
        ∃ f ∈ (validate p t').findings, f.code.text = "E3003") := by
  have hlimit' : t'.resources.size ≤ p.maxDependencyDepth := by
    rwa [Table.size, ← hreordered.resources.length_eq]
  have hother : ((validate p t).findings.filter fun f => f.code.text ≠ "E3003").Perm
      ((validate p t').findings.filter fun f => f.code.text ≠ "E3003") := by
    have hsettled := (hreordered.settledFindings_perm hnamed p).filter p.keeps
    exact ((filter_findings_perm hlimit).trans hsettled).trans (filter_findings_perm hlimit').symm
  have hcircles : (∃ f ∈ (validate p t).findings, f.code.text = "E3003") ↔
      ∃ f ∈ (validate p t').findings, f.code.text = "E3003" := by
    rw [exists_circle_iff hlimit, exists_circle_iff hlimit', ne_eq, ne_eq,
      hreordered.cycleFindings_eq_nil_iff hlimit]
  refine ⟨?_, hother, hcircles⟩
  rw [Bool.eq_iff_iff, valid_iff_of_circles, valid_iff_of_circles, hcircles]
  simp only [hother.mem_iff]

/-- A queue that hands messages on to another. -/
def inboxQueue : Resource where
  typeName := "AWS::SQS::Queue"
  properties := .ofList [("QueueName", .string "inbox"),
    ("RedrivePolicy", .map [("deadLetterTargetArn", .getAtt "Outbox" "Arn"),
      ("maxReceiveCount", .ofInt 3)])]

/-- The same queue with its entries in the opposite order. -/
def inboxQueueReordered : Resource where
  typeName := "AWS::SQS::Queue"
  properties := .ofList [
    ("RedrivePolicy", .map [("maxReceiveCount", .ofInt 3),
      ("deadLetterTargetArn", .getAtt "Outbox" "Arn")]),
    ("QueueName", .string "inbox")]

/-- The queue to which the messages go. -/
def outboxQueue : Resource where
  typeName := "AWS::SQS::Queue"
  dependsOn := ["Inbox"]

/-- The two queues, each of which waits for the other. -/
def queuePair : Template where
  formatVersion := formatVersion
  description := ""
  resources := .ofList [("Inbox", inboxQueue), ("Outbox", outboxQueue)]

/-- The two queues with all entries in the opposite order. -/
def queuePairReordered : Template where
  formatVersion := formatVersion
  description := ""
  resources := .ofList [("Outbox", outboxQueue), ("Inbox", inboxQueueReordered)]

lemma wellNamed_queuePair : queuePair.WellNamed := by
  have hinbox : inboxQueue.WellNamed := by
    have hentries : inboxQueue.properties.entries = [("QueueName", .string "inbox"),
        ("RedrivePolicy", .map [("deadLetterTargetArn", .getAtt "Outbox" "Arn"),
          ("maxReceiveCount", .ofInt 3)])] := rfl
    have hpolicy : PropertyValue.WellNamed (.map [("deadLetterTargetArn", .getAtt "Outbox" "Arn"),
        ("maxReceiveCount", .ofInt 3)]) := by
      simp [PropertyValue.ofInt, Entries.keys, or_imp, forall_and]
    rw [Resource.WellNamed, hentries]
    exact Entries.forall_mem_cons_iff.mpr ⟨.string "inbox",
      Entries.forall_mem_cons_iff.mpr ⟨hpolicy, Table.forall_mem_empty⟩⟩
  have houtbox : outboxQueue.WellNamed := Table.forall_mem_empty
  have hentries : queuePair.resources.entries =
      [("Inbox", inboxQueue), ("Outbox", outboxQueue)] := rfl
  refine ⟨Table.forall_mem_empty, ?_, Table.forall_mem_empty⟩
  rw [hentries]
  exact Entries.forall_mem_cons_iff.mpr ⟨hinbox,
    Entries.forall_mem_cons_iff.mpr ⟨houtbox, Table.forall_mem_empty⟩⟩

lemma reordered_queuePair : queuePair.Reordered queuePairReordered where
  formatVersion := rfl
  description := rfl
  parameters := .refl .refl _
  resources := by
    have hinbox : Resource.Reordered inboxQueue inboxQueueReordered := by
      refine ⟨rfl, ⟨_, .swap _ _ _, .cons (.map (.swap _ _ _) ?_) (.cons (.refl _) .nil)⟩, rfl⟩
      exact .cons (.refl _) (.cons (.refl _) .nil)
    have houtbox : Resource.Reordered outboxQueue outboxQueue := ⟨rfl, .refl .refl _, rfl⟩
    exact ⟨_, .swap _ _ _, .cons houtbox (.cons hinbox .nil)⟩
  outputs := .refl (fun _ => ⟨.refl _, rfl⟩) _

/-- The queues wait for each other in whatever order they stand. -/
theorem validate_reordered_queuePair :
    queuePair.WellNamed ∧ queuePair.Reordered queuePairReordered ∧
      queuePair.resources.size ≤ 1024 ∧
      (validate {} queuePair).valid = (validate {} queuePairReordered).valid ∧
      ((validate {} queuePair).findings.filter fun f => f.code.text ≠ "E3003").Perm
        ((validate {} queuePairReordered).findings.filter fun f => f.code.text ≠ "E3003") ∧
      ((∃ f ∈ (validate {} queuePair).findings, f.code.text = "E3003") ↔
        ∃ f ∈ (validate {} queuePairReordered).findings, f.code.text = "E3003") := by
  have hlimit : queuePair.resources.size ≤ 1024 := by decide
  exact ⟨wellNamed_queuePair, reordered_queuePair, hlimit, validate_reordered {} queuePair
    queuePairReordered wellNamed_queuePair reordered_queuePair hlimit⟩

end CloudTemplate
