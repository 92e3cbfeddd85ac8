import CloudTemplate.Proofs.Document.Depth
import CloudTemplate.Proofs.Template.RoundTrip

/-!
# How deep the text of a template is

All names that are written of a template are names of fields, so a template has no more levels than
a reader enters if its text is read at all (`Template.exists_ofText_pretty_iff`).  The value of a
property lies inside four brackets, and nothing else has to be deeper (`Template.levels_le`).

What holds of every part of a resource, an output or a template holds of every entry that is written
(`Resource.toJson_cases` and the like), which serves both.
-/

namespace CloudTemplate

variable {form : Form}

/-! ## Entries -/

lemma eq_of_mem_fieldIf {condition : Bool} {name key : String} {value j : Json}
    (h : (name, j) ∈ fieldIf condition key value) : name = key ∧ j = value := by
  unfold fieldIf at h
  split at h
  · simpa using h
  · exact absurd h List.not_mem_nil

section Cases

variable (P : String → Json → Prop)

lemma Resource.toJson_cases {r : Resource} (htype : P "Type" (.string r.typeName))
    (hproperties : P "Properties" (.object (r.properties.map PropertyValue.toJson).entries))
    (hdependsOn : P "DependsOn" (.strings r.dependsOn)) :
    ∃ entries, r.toJson = .object entries ∧ ∀ name j, (name, j) ∈ entries → P name j := by
  refine ⟨_, rfl, fun name j hmem => ?_⟩
  rw [propertiesToJson_eq, List.mem_append] at hmem
  rcases hmem with hmem | hmem
  · rcases List.mem_pair.mp hmem with hentry | hentry
    · obtain ⟨rfl, rfl⟩ := Prod.mk.inj hentry
      exact htype
    · obtain ⟨rfl, rfl⟩ := Prod.mk.inj hentry
      exact hproperties
  · obtain ⟨rfl, rfl⟩ := eq_of_mem_fieldIf hmem
    exact hdependsOn

lemma Output.toJson_cases {output : Output} (hvalue : P "Value" output.value.toJson)
    (hdescription : ∀ text, P "Description" (.string text)) :
    ∃ entries, output.toJson = .object entries ∧ ∀ name j, (name, j) ∈ entries → P name j := by
  refine ⟨_, rfl, fun name j hmem => ?_⟩
  rcases List.mem_cons.mp hmem with hentry | hmem
  · obtain ⟨rfl, rfl⟩ := Prod.mk.inj hentry
    exact hvalue
  · cases hoptional : output.description with
    | none =>
      rw [hoptional] at hmem
      exact absurd hmem List.not_mem_nil
    | some description =>
      rw [hoptional] at hmem
      obtain ⟨rfl, rfl⟩ := Prod.mk.inj (List.mem_singleton.mp hmem)
      exact hdescription description

lemma Template.toJson_cases {t : Template}
    (hformatVersion : P "AWSTemplateFormatVersion" (.string t.formatVersion))
    (hdescription : P "Description" (.string t.description))
    (hparameters : P "Parameters" (.object t.parameters.entries))
    (hresources : P "Resources" (.object (t.resources.map Resource.toJson).entries))
    (houtputs : P "Outputs" (.object (t.outputs.map Output.toJson).entries)) :
    ∃ entries, t.toJson = .object entries ∧ ∀ name j, (name, j) ∈ entries → P name j := by
  refine ⟨_, rfl, fun name j hmem => ?_⟩
  simp only [List.mem_append, List.mem_pair, List.mem_singleton] at hmem
  rcases hmem with (((hentry | hentry) | hmem) | hentry) | hmem
  · obtain ⟨rfl, rfl⟩ := Prod.mk.inj hentry
    exact hformatVersion
  · obtain ⟨rfl, rfl⟩ := Prod.mk.inj hentry
    exact hdescription
  · obtain ⟨rfl, rfl⟩ := eq_of_mem_fieldIf hmem
    exact hparameters
  · obtain ⟨rfl, rfl⟩ := Prod.mk.inj hentry
    exact hresources
  · obtain ⟨rfl, rfl⟩ := eq_of_mem_fieldIf hmem
    exact houtputs

end Cases

/-! ## What is read -/

/-- A property value is read strictly. -/
lemma shallow_asPropertyValue (j : Json) : Shallow Outline.asPropertyValue j :=
  (shallow_asJson j).map PropertyValue.ofJson

lemma Resource.shallow_read (r : Resource) : Shallow (Resource.record.read form) r.toJson := by
  have hproperties : Shallow (Outline.asTable Outline.asPropertyValue)
      (.object (r.properties.map PropertyValue.toJson).entries) :=
    shallow_asTable fun _ j _ => shallow_asPropertyValue j
  obtain ⟨entries, heq, hentries⟩ := r.toJson_cases Resource.record.Covers
    ⟨_, rfl, fun state => shallow_of_scalar rfl⟩ ⟨_, rfl, fun state => hproperties.map _⟩
    ⟨_, rfl, fun state => (shallow_asNames _).map _⟩
  rw [heq]
  exact Record.shallow_read form hentries

lemma Output.shallow_read (output : Output) :
    Shallow (Output.record.read form) output.toJson := by
  obtain ⟨entries, heq, hentries⟩ := output.toJson_cases Output.record.Covers
    ⟨_, rfl, fun state => (shallow_asPropertyValue _).map _⟩
    fun text => ⟨_, rfl, fun state => shallow_of_scalar rfl⟩
  rw [heq]
  exact Record.shallow_read form hentries

lemma Template.shallow_read (t : Template) :
    Shallow ((Template.record form).read form) t.toJson := by
  have hparameters : Shallow (Outline.asTable Outline.asJson) (.object t.parameters.entries) :=
    shallow_asTable fun _ j _ => shallow_asJson j
  have hresources : Shallow (Outline.asTable (Resource.record.read form))
      (.object (t.resources.map Resource.toJson).entries) := by
    refine shallow_asTable fun id j hmem => ?_
    obtain ⟨r, -, rfl⟩ := Table.mem_entries_map.mp hmem
    exact r.shallow_read
  have houtputs : Shallow (Outline.asTable (Output.record.read form))
      (.object (t.outputs.map Output.toJson).entries) := by
    refine shallow_asTable fun name j hmem => ?_
    obtain ⟨output, -, rfl⟩ := Table.mem_entries_map.mp hmem
    exact output.shallow_read
  obtain ⟨entries, heq, hentries⟩ := t.toJson_cases (Template.record form).Covers
    ⟨_, rfl, fun state => shallow_of_scalar rfl⟩ ⟨_, rfl, fun state => shallow_of_scalar rfl⟩
    ⟨_, rfl, fun state => hparameters.map _⟩ ⟨_, rfl, fun state => hresources.map _⟩
    ⟨_, rfl, fun state => houtputs.map _⟩
  rw [heq]
  exact Record.shallow_read form hentries

/-- Of a template whose text can be read, the text is not too deep. -/
lemma Template.levels_le_of_ofText_pretty {t read : Template}
    (h : Template.ofText t.pretty = .ok read) : t.toJson.levels ≤ levelLimit := by
  obtain ⟨o, houtline, htraces⟩ := Outline.exists_traces_ofText_pretty t.toJson
  have hread := readText_eq_ok h
  rw [pretty, houtline] at hread
  exact t.shallow_read 0 o read htraces hread

/-- The text of a template can be read just if it is not too deep. -/
lemma Template.exists_ofText_pretty_iff {t : Template} (hnamed : t.WellNamed)
    (hplain : t.Unambiguous) :
    (∃ read, Template.ofText t.pretty = .ok read) ↔ t.toJson.levels ≤ levelLimit :=
  ⟨fun ⟨_, h⟩ => levels_le_of_ofText_pretty h, fun h => ⟨t, ofText_pretty_eq hnamed hplain h⟩⟩

/-! ## Levels -/

variable {n : Nat}

lemma levels_strings_le (texts : List String) : (Json.strings texts).levels ≤ 1 := by
  have hitems : Json.levelsOfItems (texts.map .string) ≤ 0 := by
    rw [Json.levelsOfItems_le_iff]
    intro j hj
    obtain ⟨text, -, rfl⟩ := List.mem_map.mp hj
    exact Nat.le_refl 0
  rw [Json.strings, Json.levels]
  omega

lemma levels_object_le {entries : Entries Json}
    (h : ∀ name j, (name, j) ∈ entries → j.levels ≤ n) : (Json.object entries).levels ≤ n + 1 := by
  rw [Json.levels]
  exact Nat.succ_le_succ (Json.levelsOfEntries_le_iff.mpr h)

lemma levels_table_le {α : Type} {t : Table α} {write : α → Json}
    (h : ∀ name v, (name, v) ∈ t.entries → (write v).levels ≤ n) :
    (Json.object (t.map write).entries).levels ≤ n + 1 := by
  refine levels_object_le fun name j hmem => ?_
  obtain ⟨v, hv, rfl⟩ := Table.mem_entries_map.mp hmem
  exact h name v hv

lemma Resource.levels_le {r : Resource}
    (h : ∀ name v, (name, v) ∈ r.properties.entries → v.toJson.levels ≤ n) :
    r.toJson.levels ≤ n + 2 := by
  have hdependsOn : (Json.strings r.dependsOn).levels ≤ n + 1 :=
    (levels_strings_le _).trans (by omega)
  obtain ⟨entries, heq, hentries⟩ := r.toJson_cases (fun _ j => j.levels ≤ n + 1)
    (Nat.zero_le _) (levels_table_le h) hdependsOn
  rw [heq]
  exact levels_object_le hentries

lemma Output.levels_le {output : Output} (h : output.value.toJson.levels ≤ n) :
    output.toJson.levels ≤ n + 1 := by
  obtain ⟨entries, heq, hentries⟩ := output.toJson_cases (fun _ j => j.levels ≤ n) h
    fun _ => Nat.zero_le _
  rw [heq]
  exact levels_object_le hentries

lemma Template.levels_le {t : Template}
    (hparameters : ∀ name j, (name, j) ∈ t.parameters.entries → j.levels ≤ n + 2)
    (hproperties : ∀ id r, (id, r) ∈ t.resources.entries →
      ∀ name v, (name, v) ∈ r.properties.entries → v.toJson.levels ≤ n)
    (houtputs : ∀ name output, (name, output) ∈ t.outputs.entries →
      output.value.toJson.levels ≤ n + 1) : t.toJson.levels ≤ n + 4 := by
  obtain ⟨entries, heq, hentries⟩ := t.toJson_cases (fun _ j => j.levels ≤ n + 3)
    (Nat.zero_le _) (Nat.zero_le _) (levels_object_le hparameters)
    (levels_table_le fun id r hr => Resource.levels_le (hproperties id r hr))
    (levels_table_le fun name output ho => Output.levels_le (houtputs name output ho))
  rw [heq]
  exact levels_object_le hentries

end CloudTemplate
