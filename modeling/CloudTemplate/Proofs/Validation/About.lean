import CloudTemplate.Proofs.Table
import CloudTemplate.Validation.Finding

/-!
# Findings about one resource

A pass goes through the resources of a template and puts together what it finds in each.  As no two
resources have one id, what was found in one of them can be picked out again by its id
(`findingsAbout_flatMap`), and what was found in a new one can be taken away again
(`findingsElsewhere_flatMap_insert`).  In what is found in one resource the kinds of findings can be
told apart by their codes (`filter_code_eq`).
-/

namespace CloudTemplate

/-- The findings with a code about a resource. -/
def findingsAbout (code id : String) (findings : List Finding) : List Finding :=
  findings.filter fun f => f.code.text = code ∧ f.resource? = some id

/-- If what is found in each resource is about that resource, the findings about one of them are
those found in it. -/
lemma findingsAbout_flatMap {α : Type} {t : Table α} {find : String × α → List Finding}
    (habout : ∀ name v, ∀ f ∈ find (name, v), f.resource? = some name) {id : String} {value : α}
    (h : (id, value) ∈ t.entries) (code : String) :
    findingsAbout code id (t.entries.flatMap find) =
      (find (id, value)).filter (·.code.text = code) := by
  rw [findingsAbout, List.filter_flatMap, Table.flatMap_entries_eq h]
  · refine List.filter_congr fun f hf => ?_
    rw [habout id value f hf]
    simp
  · intro name v hne
    rw [List.filter_eq_nil_iff]
    intro f hf
    rw [habout name v f hf]
    simp [hne]

/-- The findings that are not about a resource. -/
def findingsElsewhere (id : String) (findings : List Finding) : List Finding :=
  findings.filter fun f => f.resource? ≠ some id

lemma findingsElsewhere_append (id : String) (findings more : List Finding) :
    findingsElsewhere id (findings ++ more) =
      findingsElsewhere id findings ++ findingsElsewhere id more :=
  List.filter_append _ _

lemma findingsElsewhere_eq_self {id : String} {findings : List Finding}
    (h : ∀ f ∈ findings, f.resource? ≠ some id) : findingsElsewhere id findings = findings := by
  rw [findingsElsewhere, List.filter_eq_self]
  exact fun f hf => decide_eq_true (h f hf)

lemma findingsElsewhere_eq_nil {id : String} {findings : List Finding}
    (h : ∀ f ∈ findings, f.resource? = some id) : findingsElsewhere id findings = [] := by
  rw [findingsElsewhere, List.filter_eq_nil_iff]
  intro f hf
  rw [h f hf]
  simp

/-- If what is found in each resource is about that resource, and a new one changes nothing for the
others, then the findings not about the new one are those from before. -/
lemma findingsElsewhere_flatMap_insert {α : Type} {t : Table α} {id : String} (value : α)
    {find find' : String × α → List Finding}
    (habout : ∀ name v, ∀ f ∈ find' (name, v), f.resource? = some name) (hfresh : id ∉ t.keys)
    (hsame : ∀ entry ∈ t.entries, find' entry = find entry) :
    findingsElsewhere id ((t.insert id value).entries.flatMap find') = t.entries.flatMap find := by
  have hold : t.entries.flatMap find' = t.entries.flatMap find := List.flatMap_congr hsame
  rw [Table.entries_insert_of_not_mem value hfresh, List.flatMap_append, List.flatMap_singleton,
    findingsElsewhere_append, findingsElsewhere_eq_nil (habout id value), List.append_nil, ← hold]
  refine findingsElsewhere_eq_self fun f hf => ?_
  obtain ⟨⟨name, v⟩, hmem, hf⟩ := List.mem_flatMap.mp hf
  rw [habout name v f hf, ne_eq, Option.some.injEq]
  rintro rfl
  exact hfresh (Entries.mem_keys_of_mem hmem)

/-- Findings of one kind are kept or dropped together. -/
lemma filter_code_eq {findings : List Finding} {text : String}
    (h : ∀ f ∈ findings, f.code.text = text) (code : String) :
    findings.filter (·.code.text = code) = if text = code then findings else [] := by
  split
  · next hsame => exact List.filter_eq_self.mpr fun f hf => by simp [h f hf, hsame]
  · next hne => exact List.filter_eq_nil_iff.mpr fun f hf => by simp [h f hf, hne]

end CloudTemplate
