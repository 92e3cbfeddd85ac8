import CloudTemplate.Proofs.Dependency.Extension
import CloudTemplate.Proofs.Dependency.Tally
import CloudTemplate.Proofs.Validation.Exposure

/-!
# One more resource

A resource is put into a template under an id that nothing in the template uses
(`Template.Unused`).  Then all that was found before is found again, in the same order, and whatever
else is found is about the new resource (`validate_putResource`).

Most findings are about one resource and made by looking at it, so that those of the new one stand
behind all others (`findingsElsewhere_flatMap_insert`).  Two things have to be seen besides.  The
names that are in use lead where they led before (`Unused.nameFindings_eq`).  And the search for
circles looks at all resources together: for it, the new resource is a vertex at the end to which no
other leads (`Unused.grown`).
-/

namespace CloudTemplate

variable {p : Policy} {t : Template} {limit : Nat} {id : String}

/-! ## Findings are about the resource in which they are made -/

lemma resource?_of_mem_idFindings {f : Finding} (h : f ∈ idFindings id) :
    f.resource? = some id := by
  simp only [idFindings, List.mem_append, List.mem_ite_nil_left, List.mem_ite_nil_right,
    List.mem_singleton] at h
  rcases h with ⟨-, rfl⟩ | ⟨-, rfl⟩ <;> rfl

lemma resource?_of_mem_propertyFindings {r : Resource} {f : Finding}
    (h : f ∈ propertyFindings id r) : f.resource? = some id := by
  cases hspec : specOf? r.typeName with
  | none =>
    rw [propertyFindings, hspec, List.mem_singleton] at h
    rw [h]
    rfl
  | some s =>
    rcases (mem_propertyFindings_iff hspec).mp h with
      ⟨_, _, _, rfl⟩ | ⟨_, _, _, ⟨_, rfl⟩ | ⟨_, _, _, rfl⟩⟩ <;> rfl

/-- A circle is reported on a resource of the template. -/
lemma resource?_of_mem_cycleFindings {dependencyLimit : Nat} {f : Finding}
    (h : f ∈ t.cycleFindings limit dependencyLimit) (hfresh : id ∉ t.resources.keys) :
    f.resource? ≠ some id := by
  rcases Template.mem_cycleFindings_iff.mp h with ⟨first, more, hpath, rfl⟩ | ⟨-, rfl⟩
  · intro hsame
    obtain rfl : first = id := Option.some.inj hsame
    obtain ⟨next, -, hedge⟩ :=
      (CycleSearch.isCircle_of_mem_paths hpath).exists_edge List.mem_cons_self
    rw [← Template.keys_dependencyGraph t limit] at hfresh
    exact hfresh (CycleSearch.mem_keys_of_edge hedge)
  · exact nofun

/-! ## Names that are not in use -/

/-- A template has no resource with an id and does not use the id as a name, as far as a scan up to
a limit sees. -/
structure Template.Unused (t : Template) (limit : Nat) (id : String) : Prop where
  /-- There is no such resource. -/
  fresh : id ∉ t.resources.keys
  /-- No resource must come after it. -/
  listed : ∀ entry ∈ t.resources.entries, id ∉ entry.2.dependsOn
  /-- No property refers to it. -/
  referred : ∀ entry ∈ t.resources.entries, ∀ property ∈ entry.2.properties.entries,
    ∀ reference ∈ (scan limit property.2).references, reference.target ≠ id
  /-- No output refers to it. -/
  shown : ∀ entry ∈ t.outputs.entries,
    ∀ reference ∈ (scan limit entry.2.value).references, reference.target ≠ id

namespace Template

variable {r : Resource}

lemma keys_putResource (hfresh : id ∉ t.resources.keys) :
    (t.putResource id r).resources.keys = t.resources.keys ++ [id] := by
  rw [putResource, Table.keys, Table.entries_insert_of_not_mem r hfresh, Entries.keys_append]
  rfl

lemma contains_putResource {target : String} (h : target ≠ id) :
    (t.putResource id r).resources.contains target = t.resources.contains target := by
  rw [putResource, Table.contains, Table.get?_insert_of_ne _ _ h, ← Table.contains]

lemma resolves_putResource {reference : Reference} (h : reference.target ≠ id) :
    (t.putResource id r).resolves reference = t.resolves reference := by
  rw [resolves, contains_putResource h, resolves]
  rfl

/-- The references in a value lead where they led before, if none leads to the new resource. -/
lemma filter_resolves_eq {references : List Reference}
    (h : ∀ reference ∈ references, reference.target ≠ id) :
    (references.filter fun reference => !(t.putResource id r).resolves reference) =
      references.filter fun reference => !t.resolves reference := by
  refine List.filter_congr fun reference hreference => ?_
  rw [resolves_putResource (h reference hreference)]

namespace Unused

variable (h : t.Unused limit id)
include h

/-- What is found about the names of a resource is what was found before. -/
lemma nameFindings_eq {entry : String × Resource} (hentry : entry ∈ t.resources.entries) :
    (t.putResource id r).nameFindings limit entry.1 entry.2 =
      t.nameFindings limit entry.1 entry.2 := by
  have hlisted : (entry.2.dependsOn.filter fun target =>
      !(t.putResource id r).resources.contains target) =
        entry.2.dependsOn.filter fun target => !t.resources.contains target := by
    refine List.filter_congr fun target htarget => ?_
    rw [contains_putResource]
    rintro rfl
    exact h.listed entry hentry htarget
  have hreferred : ∀ named ∈ entry.2.scans limit,
      (named.2.references.filter fun reference => !(t.putResource id r).resolves reference) =
        named.2.references.filter fun reference => !t.resolves reference := by
    intro named hnamed
    obtain ⟨property, hproperty, rfl⟩ := List.mem_map.mp hnamed
    exact filter_resolves_eq (h.referred entry hentry property hproperty)
  simp only [nameFindings, hlisted]
  rw [List.flatMap_congr fun named hnamed => by rw [hreferred named hnamed]]

lemma outputNameFindings_eq :
    (t.putResource id r).outputNameFindings limit = t.outputNameFindings limit :=
  List.flatMap_congr fun entry hentry => by
    dsimp only
    rw [filter_resolves_eq (h.shown entry hentry)]

lemma dependencies_eq {entry : String × Resource} (hentry : entry ∈ t.resources.entries) :
    (t.putResource id r).dependencies limit entry.2 = t.dependencies limit entry.2 := by
  have hfilter : (entry.2.usedNames limit).filter (t.putResource id r).resources.contains =
      (entry.2.usedNames limit).filter t.resources.contains := by
    refine List.filter_congr fun target htarget => contains_putResource ?_
    rintro rfl
    rcases Resource.mem_usedNames_iff.mp htarget with
      hlisted | ⟨property, value, hmem, reference, hfound, hsame⟩
    · exact h.listed entry hentry hlisted
    · exact h.referred entry hentry (property, value) hmem reference hfound hsame
  rw [dependencies, hfilter, dependencies]

/-- For the search for circles, the new resource is a vertex at the end to which no others lead. -/
lemma grown : (t.dependencyGraph limit).Grown id ((t.putResource id r).dependencyGraph limit) := by
  have hkeys : ((t.putResource id r).dependencyGraph limit).keys =
      (t.dependencyGraph limit).keys ++ [id] := by
    rw [keys_dependencyGraph, keys_dependencyGraph, keys_putResource h.fresh]
  -- The old vertices keep their targets; those of the new one are vertices, old ones or itself.
  refine ⟨hkeys, fun other hother => ?_, fun a b => mem_keys_of_edge_dependencyGraph,
    fun b hedge => ?_⟩
  · rw [keys_dependencyGraph] at hother
    obtain ⟨r', hr'⟩ := Entries.exists_mem_of_mem_keys hother
    have hne : other ≠ id := by
      rintro rfl
      exact h.fresh hother
    have hkept : (other, r') ∈ (t.putResource id r).resources.entries :=
      Table.mem_entries_insert_iff.mpr (.inr ⟨hne, hr'⟩)
    rw [targets_dependencyGraph hkept, targets_dependencyGraph hr', h.dependencies_eq hr']
  · have hkey := mem_keys_of_edge_dependencyGraph hedge
    rw [hkeys, List.mem_append, List.mem_singleton] at hkey
    exact hkey.symm

end Unused

end Template

/-! ## The passes -/

section Passes

variable {r : Resource}

lemma findingsElsewhere_structureFindings (hsome : t.resources.isEmpty = false)
    (hfresh : id ∉ t.resources.keys) :
    findingsElsewhere id (t.putResource id r).structureFindings = t.structureFindings := by
  have hsome' : (t.putResource id r).resources.isEmpty = false := by
    rw [Template.putResource, Table.isEmpty, Table.entries_insert_of_not_mem r hfresh]
    simp
  have hsplit : (t.putResource id r).structureFindings = t.structureFindings ++ idFindings id := by
    simp only [Template.structureFindings, hsome, hsome', Template.keys_putResource hfresh,
      List.flatMap_append, List.flatMap_singleton, List.append_assoc]
    rfl
  have hold : ∀ f ∈ t.structureFindings, f.resource? ≠ some id := by
    intro f hf hsame
    rcases mem_structureFindings_iff.mp hf with
      ⟨-, rfl⟩ | ⟨-, rfl⟩ | ⟨-, rfl⟩ | ⟨other, hother, ⟨-, rfl⟩ | ⟨-, rfl⟩⟩
    case inr.inr.inr.inl | inr.inr.inr.inr =>
      obtain rfl : other = id := Option.some.inj hsame
      exact hfresh hother
    all_goals simp [Finding.resource?] at hsame
  rw [hsplit, findingsElsewhere_append, findingsElsewhere_eq_self hold,
    findingsElsewhere_eq_nil fun f hf => resource?_of_mem_idFindings hf, List.append_nil]

lemma findingsElsewhere_cycleFindings (h : t.Unused limit id) (dependencyLimit : Nat) :
    findingsElsewhere id ((t.putResource id r).cycleFindings limit dependencyLimit) =
      t.cycleFindings limit dependencyLimit := by
  obtain ⟨hpaths, htruncated⟩ := CycleSearch.findCycles_grown (h.grown (r := r)) dependencyLimit
  have hold : findingsElsewhere id (t.cycleFindings limit dependencyLimit) =
      t.cycleFindings limit dependencyLimit :=
    findingsElsewhere_eq_self fun f hf => resource?_of_mem_cycleFindings hf h.fresh
  rw [← hold]
  simp only [Template.cycleFindings, hpaths, htruncated, List.filterMap_append,
    findingsElsewhere_append]
  split <;> simp [findingsElsewhere, Finding.resource?]

/-- What a pass finds elsewhere is what it found before. -/
lemma findingsElsewhere_findings (hsome : t.resources.isEmpty = false)
    (h : t.Unused p.maxReferenceDepth id) (pass : Pass) :
    findingsElsewhere id (pass.findings p (t.putResource id r)) = pass.findings p t := by
  cases pass with
  | structural => exact findingsElsewhere_structureFindings hsome h.fresh
  | properties =>
    exact findingsElsewhere_flatMap_insert r
      (fun _ _ _ hf => resource?_of_mem_propertyFindings hf) h.fresh fun _ _ => rfl
  | dependencies =>
    have hnames : findingsElsewhere id
        ((t.putResource id r).resourceNameFindings p.maxReferenceDepth) =
          t.resourceNameFindings p.maxReferenceDepth :=
      findingsElsewhere_flatMap_insert r
        (fun _ _ _ hf => Template.resource?_of_mem_nameFindings hf) h.fresh
        fun _ hentry => h.nameFindings_eq hentry
    have houtputs : findingsElsewhere id (t.outputNameFindings p.maxReferenceDepth) =
        t.outputNameFindings p.maxReferenceDepth := by
      refine findingsElsewhere_eq_self fun f hf => ?_
      obtain ⟨_, _, _, _, _, _, rfl⟩ := Template.mem_outputNameFindings_iff.mp hf
      exact nofun
    simp only [Pass.findings, findingsElsewhere_append, hnames, h.outputNameFindings_eq, houtputs,
      findingsElsewhere_cycleFindings h]
  | bestPractices =>
    exact findingsElsewhere_flatMap_insert r
      (fun _ _ _ hf => resource?_of_mem_practiceFindings hf) h.fresh fun _ _ => rfl

end Passes

/-! ## The report -/

lemma findingsElsewhere_filter (id : String) (keep : Finding → Bool) (findings : List Finding) :
    findingsElsewhere id (findings.filter keep) = (findingsElsewhere id findings).filter keep := by
  simp only [findingsElsewhere, List.filter_filter, Bool.and_comm]

/-- Suppose a template has resources, and none with a certain id, which no resource and no output
names either, as far as a scan sees.  If a resource is put under that id, the errors and the
warnings from before are reported again, in their order, and all others are about the new
resource. -/
theorem validate_putResource (p : Policy) (t : Template) (id : String) (r : Resource)
    (hsome : t.resources.isEmpty = false) (h : t.Unused p.maxReferenceDepth id) :
    (validate p t).errors.Sublist (validate p (t.putResource id r)).errors ∧
      (validate p t).warnings.Sublist (validate p (t.putResource id r)).warnings ∧
      findingsElsewhere id (validate p (t.putResource id r)).errors = (validate p t).errors ∧
      findingsElsewhere id (validate p (t.putResource id r)).warnings =
        (validate p t).warnings := by
  have hpasses : findingsElsewhere id (p.passes.flatMap (Pass.findings p (t.putResource id r))) =
      p.passes.flatMap (Pass.findings p t) := by
    rw [findingsElsewhere, List.filter_flatMap]
    exact List.flatMap_congr fun pass _ => findingsElsewhere_findings hsome h pass
  have herrors : findingsElsewhere id (validate p (t.putResource id r)).errors =
      (validate p t).errors := by
    simp only [validate, Report.ofFindings, findingsElsewhere_filter, hpasses]
  have hwarnings : findingsElsewhere id (validate p (t.putResource id r)).warnings =
      (validate p t).warnings := by
    simp only [validate, Report.ofFindings, findingsElsewhere_filter, hpasses]
  refine ⟨?_, ?_, herrors, hwarnings⟩
  · rw [← herrors]
    exact List.filter_sublist
  · rw [← hwarnings]
    exact List.filter_sublist

/-- Two resources that need each other, and an output that shows neither. -/
def pairTemplate : Template where
  formatVersion := formatVersion
  description := "Pair"
  resources := .ofList [
    ("Topic", ⟨"AWS::SNS::Topic", .ofList [("TopicName", .ref "Missing")], ["Site"]⟩),
    ("Site", ⟨"Custom::Site", .empty, ["Topic"]⟩)]
  outputs := .ofList [("Shown", ⟨.ref "Gone", none⟩)]

/-- A resource that needs itself, another and one that is not there. -/
def loopedQueue : Resource :=
  ⟨"AWS::SQS::Queue", .ofList [("Colour", .ref "New-1")], ["Topic", "Nowhere"]⟩

/-- A policy under which the search for circles does not go beyond a root. -/
def nearPolicy : Policy where
  maxDependencyDepth := 1

lemma unused_pairTemplate : pairTemplate.Unused nearPolicy.maxReferenceDepth "New-1" where
  fresh := by decide
  listed := by decide
  referred := by decide +kernel
  shown := by decide +kernel

/-- The search is cut short before and after.  The circle of the new resource is found, and that of
the other two is not. -/
theorem validate_putResource_pairTemplate :
    pairTemplate.resources.isEmpty = false ∧
      pairTemplate.Unused nearPolicy.maxReferenceDepth "New-1" ∧
      (validate nearPolicy (pairTemplate.putResource "New-1" loopedQueue)).errors =
        [.invalidLogicalId "New-1", .danglingReference "Topic" "TopicName" (.ref "Missing"),
          .danglingDependency "New-1" "Nowhere", .danglingOutput "Shown" (.ref "Gone"),
          .circularDependency "New-1" ["New-1"]] ∧
      (validate nearPolicy (pairTemplate.putResource "New-1" loopedQueue)).warnings =
        [.unknownType "Site" "Custom::Site", .unknownProperty "New-1" "Colour" "AWS::SQS::Queue",
          .dependencyDepth 1] ∧
      (validate nearPolicy pairTemplate).errors =
        [.danglingReference "Topic" "TopicName" (.ref "Missing"),
          .danglingOutput "Shown" (.ref "Gone")] ∧
      (validate nearPolicy pairTemplate).warnings =
        [.unknownType "Site" "Custom::Site", .dependencyDepth 1] := by
  have hsome : pairTemplate.resources.isEmpty = false := by decide
  obtain ⟨-, -, herrors, hwarnings⟩ :=
    validate_putResource nearPolicy pairTemplate "New-1" loopedQueue hsome unused_pairTemplate
  have hreport : validate nearPolicy (pairTemplate.putResource "New-1" loopedQueue) =
      ⟨[.invalidLogicalId "New-1", .danglingReference "Topic" "TopicName" (.ref "Missing"),
          .danglingDependency "New-1" "Nowhere", .danglingOutput "Shown" (.ref "Gone"),
          .circularDependency "New-1" ["New-1"]],
        [.unknownType "Site" "Custom::Site", .unknownProperty "New-1" "Colour" "AWS::SQS::Queue",
          .dependencyDepth 1]⟩ := by
    decide +kernel
  rw [hreport] at herrors hwarnings ⊢
  refine ⟨hsome, unused_pairTemplate, rfl, rfl, herrors.symm.trans ?_, hwarnings.symm.trans ?_⟩
  · decide
  · decide

end CloudTemplate
