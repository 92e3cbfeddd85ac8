import CloudTemplate.Proofs.Document.Decode
import CloudTemplate.Proofs.Template.WellNamed
import CloudTemplate.Proofs.Value.Reading
import CloudTemplate.Template.Document

/-!
# Templates survive being written and read

A template is written with its fields in a fixed order, and a field that says nothing is left out.
Read back, each field restores its part of the record, and one that was left out has the value that
the record starts with (`Record.Steps.fieldIf`); so resources, outputs and in the end templates come
back as they were.

Two things can stand in the way.  A map that looks like a reference is read as one, and a reader
does not enter more than 127 brackets inside one another.  A template without such a map and of at
most that depth is read back from its text, and no template that was read has such a map
(`Template.ofText_pretty`).  As for the reals in it, this relies on a reader of JSON that takes the
double nearest to a literal (`realNumber`).
-/

namespace CloudTemplate

/-! ## Templates without false references -/

/-- No map inside a property looks like a reference. -/
def Resource.Unambiguous (r : Resource) : Prop :=
  ∀ property value, (property, value) ∈ r.properties.entries → value.Unambiguous

/-- No map inside a property or an output looks like a reference. -/
structure Template.Unambiguous (t : Template) : Prop where
  resources : ∀ id r, (id, r) ∈ t.resources.entries → r.Unambiguous
  outputs : ∀ name output, (name, output) ∈ t.outputs.entries → output.value.Unambiguous

/-! ## Reading what was written -/

variable {o : Outline} {form : Form}

lemma Outline.Shows.asPropertyValue_eq {v : PropertyValue} (h : o.Shows v.toJson)
    (hnamed : v.WellNamed) (hplain : v.Unambiguous) : o.asPropertyValue = .ok v := by
  rw [asPropertyValue, h.asJson_eq hnamed]
  exact congrArg Except.ok (PropertyValue.ofJson_toJson hplain)

lemma propertiesToJson_eq (properties : Table PropertyValue) :
    propertiesToJson properties = .object (properties.map PropertyValue.toJson).entries := by
  rw [propertiesToJson, PropertyValue.toEntries_eq_map]
  rfl

/-- A field that is left out has to have the value that the record starts with. -/
lemma Record.Steps.fieldIf {σ : Type} {r : Record σ} {state mid : σ} {condition : Bool}
    {name : String} {j : Json} (hstep : r.Steps state [(name, j)] mid)
    (hskip : condition = false → mid = state) : r.Steps state (fieldIf condition name j) mid := by
  cases condition with
  | true => exact hstep
  | false =>
    rw [hskip rfl]
    exact .nil state

lemma keys_fieldIf_sublist (condition : Bool) (name : String) (j : Json) :
    (Entries.keys (fieldIf condition name j)).Sublist [name] := by
  cases condition with
  | true => exact .refl _
  | false => exact List.nil_sublist _

lemma Resource.read_eq {r : Resource} (h : o.Shows r.toJson) (hnamed : r.WellNamed)
    (hplain : r.Unambiguous) : Resource.record.read form o = .ok r := by
  have htype : Resource.record.Steps Resource.record.blank [("Type", .string r.typeName)]
      ⟨r.typeName, .empty, []⟩ :=
    .single rfl (fun _ => rfl) (fun o ho => ho.asText_eq) rfl
  have hproperties : Resource.record.Steps ⟨r.typeName, .empty, []⟩
      [("Properties", propertiesToJson r.properties)] ⟨r.typeName, r.properties, []⟩ := by
    rw [propertiesToJson_eq]
    exact .single rfl (fun _ => rfl) (fun o ho => ho.asTable_eq fun name v hmem o ho =>
      ho.asPropertyValue_eq (hnamed name v hmem) (hplain name v hmem)) rfl
  have hdependsOn : Resource.record.Steps ⟨r.typeName, r.properties, []⟩
      (fieldIf (!r.dependsOn.isEmpty) "DependsOn" (.strings r.dependsOn)) r := by
    refine .fieldIf (.single rfl (fun _ => rfl) (fun o ho => ho.asNames_eq) rfl) fun hskip => ?_
    obtain ⟨typeName, properties, dependsOn⟩ := r
    obtain rfl : dependsOn = [] := by simpa using hskip
    rfl
  refine Record.read_of_steps form ((htype.append hproperties).append hdependsOn) h ?keys ?required
  case keys =>
    have hsublist := keys_fieldIf_sublist (!r.dependsOn.isEmpty) "DependsOn" (.strings r.dependsOn)
    exact .sublist (.append (.refl ["Type", "Properties"]) hsublist) (by decide)
  case required => simp [Resource.record, Entries.keys]

lemma Output.read_eq {output : Output} (h : o.Shows output.toJson)
    (hnamed : output.value.WellNamed) (hplain : output.value.Unambiguous) :
    Output.record.read form o = .ok output := by
  have hvalue : Output.record.Steps Output.record.blank [("Value", output.value.toJson)]
      ⟨output.value, none⟩ :=
    .single rfl (fun _ => rfl) (fun o ho => ho.asPropertyValue_eq hnamed hplain) rfl
  obtain ⟨value, _ | description⟩ := output
  · exact Record.read_of_steps form hvalue h (List.nodup_singleton _)
      (by simp [Output.record, Entries.keys])
  · have hdescription : Output.record.Steps ⟨value, none⟩ [("Description", .string description)]
        ⟨value, some description⟩ :=
      .single rfl (fun _ => rfl) (fun o ho => ho.asOptional_asText_eq) rfl
    exact Record.read_of_steps form (hvalue.append hdescription) h (by simp [Entries.keys])
      (by simp [Output.record, Entries.keys])

lemma Template.read_eq {t : Template} (h : o.Shows t.toJson) (hnamed : t.WellNamed)
    (hplain : t.Unambiguous) : (Template.record form).read form o = .ok t := by
  obtain ⟨formatVersion, description, parameters, resources, outputs⟩ := t
  have hformatVersion : (Template.record form).Steps (Template.record form).blank
      [("AWSTemplateFormatVersion", .string formatVersion)]
      ⟨formatVersion, "", .empty, .empty, .empty⟩ :=
    .single rfl (fun _ => rfl) (fun o ho => ho.asText_eq) rfl
  have hdescription : (Template.record form).Steps ⟨formatVersion, "", .empty, .empty, .empty⟩
      [("Description", .string description)]
      ⟨formatVersion, description, .empty, .empty, .empty⟩ :=
    .single rfl (fun _ => rfl) (fun o ho => ho.asText_eq) rfl
  have hparameters : (Template.record form).Steps
      ⟨formatVersion, description, .empty, .empty, .empty⟩
      (CloudTemplate.fieldIf (!parameters.isEmpty) "Parameters" (.object parameters.entries))
      ⟨formatVersion, description, parameters, .empty, .empty⟩ := by
    have hentries : (parameters.map id).entries = parameters.entries := List.map_id _
    rw [← hentries]
    refine .fieldIf (.single rfl (fun _ => rfl) (fun o ho => ho.asTable_eq fun name j hmem o ho =>
      ho.asJson_eq (hnamed.parameters name j hmem)) rfl) fun hskip => ?_
    have hempty : parameters.isEmpty = true := by simpa using hskip
    rw [Table.eq_empty_of_isEmpty hempty]
  have hresources : (Template.record form).Steps
      ⟨formatVersion, description, parameters, .empty, .empty⟩
      [("Resources", .object (resources.map Resource.toJson).entries)]
      ⟨formatVersion, description, parameters, resources, .empty⟩ :=
    .single rfl (fun _ => rfl) (fun o ho => ho.asTable_eq fun id r hmem o ho =>
      Resource.read_eq ho (hnamed.resources id r hmem) (hplain.resources id r hmem)) rfl
  have houtputs : (Template.record form).Steps
      ⟨formatVersion, description, parameters, resources, .empty⟩
      (CloudTemplate.fieldIf (!outputs.isEmpty) "Outputs"
        (.object (outputs.map Output.toJson).entries))
      ⟨formatVersion, description, parameters, resources, outputs⟩ := by
    refine .fieldIf (.single rfl (fun _ => rfl) (fun o ho =>
      ho.asTable_eq fun name output hmem o ho =>
        Output.read_eq ho (hnamed.outputs name output hmem) (hplain.outputs name output hmem)) rfl)
      fun hskip => ?_
    have hempty : outputs.isEmpty = true := by simpa using hskip
    rw [Table.eq_empty_of_isEmpty hempty]
  refine Record.read_of_steps form
    ((((hformatVersion.append hdescription).append hparameters).append hresources).append houtputs)
    h ?keys ?required
  case keys =>
    have hparameterKey := keys_fieldIf_sublist (!parameters.isEmpty) "Parameters"
      (.object parameters.entries)
    have houtputKey := keys_fieldIf_sublist (!outputs.isEmpty) "Outputs"
      (.object (outputs.map Output.toJson).entries)
    have hnodup : ["AWSTemplateFormatVersion", "Description", "Parameters", "Resources",
      "Outputs"].Nodup := by decide
    simp only [Entries.keys_append]
    exact .sublist ((((List.Sublist.refl ["AWSTemplateFormatVersion", "Description"]).append
      hparameterKey).append (.refl ["Resources"])).append houtputKey) hnodup
  case required => simp [Template.record]

/-- A template is read back from its text. -/
lemma Template.ofText_pretty_eq {t : Template} (hnamed : t.WellNamed) (hplain : t.Unambiguous)
    (hlevels : t.toJson.levels ≤ levelLimit) : Template.ofText t.pretty = .ok t := by
  obtain ⟨o, houtline, hshows⟩ := Outline.shows_ofText_pretty hlevels
  rw [Template.ofText, readText, pretty, houtline]
  simp only [Template.read_eq hshows hnamed hplain]

/-! ## What is read -/

lemma Outline.wellNamed_of_asJson {j : Json} (h : o.asJson = .ok j) : j.WellNamed := by
  unfold asJson at h
  split at h
  · next hvalue => exact Except.ok.inj h ▸ wellNamed_of_value hvalue
  · exact absurd h nofun

/-- Property values that are read are well named and unambiguous. -/
lemma Outline.sound_of_asPropertyValue {v : PropertyValue} (h : o.asPropertyValue = .ok v) :
    v.WellNamed ∧ v.Unambiguous := by
  obtain ⟨j, hj, rfl⟩ := exists_of_map_eq_ok h
  exact ⟨PropertyValue.wellNamed_ofJson (wellNamed_of_asJson hj),
    PropertyValue.unambiguous_ofJson j⟩

lemma Resource.sound_of_read {r : Resource} (h : Resource.record.read form o = .ok r) :
    r.WellNamed ∧ r.Unambiguous := by
  refine Record.read_induction (P := fun r : Resource => r.WellNamed ∧ r.Unambiguous) ?blank ?_ h
  case blank =>
    exact ⟨Table.forall_mem_empty, Table.forall_mem_empty⟩
  refine List.forall_mem_cons.mpr ⟨Field.keeps_map ?type, List.forall_mem_cons.mpr
    ⟨Field.keeps_map ?properties, List.forall_mem_singleton.mpr (Field.keeps_map ?dependsOn)⟩⟩
  case type => exact fun r o typeName hr _ => hr
  case properties =>
    intro r o properties _ hread
    have hsound := Outline.forall_of_asTable (fun _ _ => Outline.sound_of_asPropertyValue) hread
    exact ⟨fun name v hmem => (hsound name v hmem).1, fun name v hmem => (hsound name v hmem).2⟩
  case dependsOn => exact fun r o dependsOn hr _ => hr

lemma Output.sound_of_read {output : Output} (h : Output.record.read form o = .ok output) :
    output.value.WellNamed ∧ output.value.Unambiguous := by
  refine Record.read_induction
    (P := fun output : Output => output.value.WellNamed ∧ output.value.Unambiguous) ?blank ?_ h
  case blank => exact ⟨.null, PropertyValue.unambiguous_of_atom nofun nofun⟩
  refine List.forall_mem_cons.mpr ⟨Field.keeps_map ?value,
    List.forall_mem_singleton.mpr (Field.keeps_map ?description)⟩
  case value => exact fun output o v _ hread => Outline.sound_of_asPropertyValue hread
  case description => exact fun output o description houtput _ => houtput

/-- What holds of the tables of every template that is read. -/
structure Template.Sound (t : Template) : Prop where
  parameters : ∀ name j, (name, j) ∈ t.parameters.entries → j.WellNamed
  resources : ∀ id r, (id, r) ∈ t.resources.entries → r.WellNamed ∧ r.Unambiguous
  outputs : ∀ name output, (name, output) ∈ t.outputs.entries →
    output.value.WellNamed ∧ output.value.Unambiguous

lemma Template.sound_of_read {t : Template} (h : (Template.record form).read form o = .ok t) :
    t.Sound := by
  refine Record.read_induction (P := Template.Sound) ?blank ?_ h
  case blank => exact ⟨Table.forall_mem_empty, Table.forall_mem_empty, Table.forall_mem_empty⟩
  refine List.forall_mem_cons.mpr ⟨Field.keeps_map ?formatVersion, List.forall_mem_cons.mpr
    ⟨Field.keeps_map ?description, List.forall_mem_cons.mpr ⟨Field.keeps_map ?parameters,
      List.forall_mem_cons.mpr ⟨Field.keeps_map ?resources,
        List.forall_mem_singleton.mpr (Field.keeps_map ?outputs)⟩⟩⟩⟩
  case formatVersion =>
    rintro t o formatVersion ⟨hparameters, hresources, houtputs⟩ -
    exact ⟨hparameters, hresources, houtputs⟩
  case description =>
    rintro t o description ⟨hparameters, hresources, houtputs⟩ -
    exact ⟨hparameters, hresources, houtputs⟩
  case parameters =>
    rintro t o parameters ⟨-, hresources, houtputs⟩ hread
    have hparameters := Outline.forall_of_asTable (fun _ _ => Outline.wellNamed_of_asJson) hread
    exact ⟨hparameters, hresources, houtputs⟩
  case resources =>
    rintro t o resources ⟨hparameters, -, houtputs⟩ hread
    have hresources := Outline.forall_of_asTable (fun _ _ => Resource.sound_of_read) hread
    exact ⟨hparameters, hresources, houtputs⟩
  case outputs =>
    rintro t o outputs ⟨hparameters, hresources, -⟩ hread
    have houtputs := Outline.forall_of_asTable (fun _ _ => Output.sound_of_read) hread
    exact ⟨hparameters, hresources, houtputs⟩

lemma Template.Sound.wellNamed {t : Template} (h : t.Sound) : t.WellNamed where
  parameters := h.parameters
  resources id r hmem := (h.resources id r hmem).1
  outputs name output hmem := (h.outputs name output hmem).1

lemma Template.Sound.unambiguous {t : Template} (h : t.Sound) : t.Unambiguous where
  resources id r hmem := (h.resources id r hmem).2
  outputs name output hmem := (h.outputs name output hmem).2

/-- Every template without a map that looks like a reference, and without more than 127 brackets
inside one another, is read back from its text; and what is read never has such a map. -/
theorem Template.ofText_pretty :
    (∀ t : Template, t.WellNamed → t.Unambiguous → t.toJson.levels ≤ 127 →
      Template.ofText t.pretty = .ok t) ∧
    ∀ (text : String) (t : Template), Template.ofText text = .ok t →
      t.WellNamed ∧ t.Unambiguous := by
  constructor
  · intro t hnamed hplain hlevels
    exact ofText_pretty_eq hnamed hplain hlevels
  · intro text t h
    have hsound : t.Sound := sound_of_read (readText_eq_ok h)
    exact ⟨hsound.wellNamed, hsound.unambiguous⟩

/-- A queue whose values are of all kinds, two of them almost references. -/
def archiveQueue : Resource where
  typeName := "AWS::SQS::Queue"
  properties := ⟨[
    ("QueueName", .ref "Name"),
    ("RedrivePolicy", .map [("deadLetterTargetArn", .getAtt "Dead" "Arn"),
      ("maxReceiveCount", .ofInt 3)]),
    ("Tags", .list [.map [(refKey, .bool true)], .map [(getAttKey, .string "no dot")], .null])],
    by decide⟩
  dependsOn := ["Dead"]

/-- A template of the queue, the queue for its rejected messages, a parameter and an output. -/
def archiveTemplate : Template where
  formatVersion := formatVersion
  description := "Archive"
  parameters := ⟨[("Name", .object [("Type", .string "String")])], by decide⟩
  resources := ⟨[("Archive", archiveQueue), ("Dead", .ofType "AWS::SQS::Queue")], by decide⟩
  outputs := ⟨[("Arn", ⟨.getAtt "Archive" "Arn", some "The \"address\""⟩)], by decide⟩

lemma wellNamed_archiveTemplate : archiveTemplate.WellNamed := by
  have hqueue : archiveQueue.WellNamed := by
    refine Entries.forall_mem_cons_iff.mpr ⟨?name, Entries.forall_mem_cons_iff.mpr ⟨?policy,
      Entries.forall_mem_cons_iff.mpr ⟨?tags, Table.forall_mem_empty⟩⟩⟩
    case name => exact PropertyValue.wellNamed_ref "Name"
    case policy => simp [PropertyValue.ofInt, Entries.keys, or_imp, forall_and]
    case tags => simp [Entries.keys]
  refine ⟨?parameters, ?resources, ?outputs⟩
  case parameters =>
    exact Entries.forall_mem_cons_iff.mpr ⟨by simp [Entries.keys], Table.forall_mem_empty⟩
  case resources =>
    exact Entries.forall_mem_cons_iff.mpr ⟨hqueue,
      Entries.forall_mem_cons_iff.mpr ⟨Table.forall_mem_empty, Table.forall_mem_empty⟩⟩
  case outputs =>
    exact Entries.forall_mem_cons_iff.mpr
      ⟨PropertyValue.wellNamed_getAtt "Archive" "Arn", Table.forall_mem_empty⟩

lemma unambiguous_archiveTemplate : archiveTemplate.Unambiguous := by
  have hqueue : archiveQueue.Unambiguous := by
    refine Entries.forall_mem_cons_iff.mpr ⟨?name, Entries.forall_mem_cons_iff.mpr ⟨?policy,
      Entries.forall_mem_cons_iff.mpr ⟨?tags, Table.forall_mem_empty⟩⟩⟩
    all_goals exact PropertyValue.ofJson_toJson_iff.mp (by decide)
  refine ⟨?resources, ?outputs⟩
  case resources =>
    exact Entries.forall_mem_cons_iff.mpr ⟨hqueue,
      Entries.forall_mem_cons_iff.mpr ⟨Table.forall_mem_empty, Table.forall_mem_empty⟩⟩
  case outputs =>
    exact Entries.forall_mem_cons_iff.mpr
      ⟨PropertyValue.ofJson_toJson_iff.mp rfl, Table.forall_mem_empty⟩

/-- The template of the queue is read back. -/
theorem Template.ofText_pretty_archiveTemplate :
    archiveTemplate.WellNamed ∧ archiveTemplate.Unambiguous ∧
      archiveTemplate.toJson.levels ≤ 127 ∧
      Template.ofText archiveTemplate.pretty = .ok archiveTemplate := by
  have hlevels : archiveTemplate.toJson.levels ≤ 127 := by decide
  have hread := Template.ofText_pretty.1 archiveTemplate wellNamed_archiveTemplate
    unambiguous_archiveTemplate hlevels
  obtain ⟨hnamed, hplain⟩ := Template.ofText_pretty.2 archiveTemplate.pretty archiveTemplate hread
  exact ⟨hnamed, hplain, hlevels, hread⟩

end CloudTemplate
