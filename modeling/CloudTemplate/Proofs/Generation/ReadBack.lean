import CloudTemplate.Proofs.Generation.Legible
import CloudTemplate.Validation.Validate

/-!
# Reading what was generated

The text of a generated template is meant to be read again, by those who deploy it and by
validation.  For a drawing that was read from a text this goes well exactly as long as the template
has no more levels than a reader enters.  A reader enters the properties of a template as deep as
the attributes of a drawing, but the generator puts the environment of a function one level deeper,
so an environment that fills the limit is drawn, accepted and generated, and then refused.

For its numbers this relies on a reader that takes the double nearest to a literal (`realNumber`),
since the printer writes no more digits than tell a double from its neighbours.  With a reader that
only comes near to some reals, such a real may be off in the last place when it is read again.  For
a drawing whose numbers are whole and fit 64 bits nothing depends on this.
-/

namespace CloudTemplate

variable {g : Graph}

lemma validateText_eq {text : String} {t : Template} (h : Template.ofText text = .ok t)
    (p : Policy) : validateText p text = validate p t := by
  rw [validateText, h]

/-- A drawing that was read from a text is compiled to a template whose text can be read just if
the template has at most 127 levels, and then it is read as the template itself, with the same
report.  That is so if no attribute has more than 123 levels, and no environment of a function more
than 122. -/
theorem template_read_back_iff (text : String) (g : Graph) (hread : Graph.ofText text = .ok g) :
    ((∃ t, Template.ofText g.template.pretty = .ok t) ↔ g.template.toJson.levels ≤ 127) ∧
      (g.template.toJson.levels ≤ 127 → Template.ofText g.template.pretty = .ok g.template ∧
        ∀ p, validateText p g.template.pretty = validate p g.template) ∧
      ((∀ n ∈ g.nodes, ∀ key v, (key, v) ∈ n.attributes.entries →
        v.toJson.levels + n.wrapping key ≤ 123) → g.template.toJson.levels ≤ 127) := by
  have hsound := Graph.sound_of_ofText hread
  obtain ⟨room, hroom⟩ := exists_room hsound
  have hlegible := legible_template hroom
  refine ⟨?readable, fun hlevels => ?same, fun hattributes => ?shallow⟩
  case readable =>
    exact Template.exists_ofText_pretty_iff hlegible.wellNamed hlegible.unambiguous
  case same =>
    have hback := Template.ofText_pretty_eq hlegible.wellNamed hlegible.unambiguous hlevels
    exact ⟨hback, validateText_eq hback⟩
  case shallow =>
    have hnodes : ∀ n ∈ g.nodes, n.Legible (119 + 4) :=
      fun n hn => ⟨hsound n hn, hattributes n hn⟩
    exact (legible_template hnodes).levels_le

/-- A function whose environment holds a text inside so many lists. -/
def deepFunction (lists : Nat) : Node where
  id := "Fn"
  kind := .lambda
  attributes := .ofList [("roleArn", .string "arn:aws:iam::1:role/r"),
    ("environment", .map [("A", (PropertyValue.string "x").inLists lists)])]

/-- A drawing of the function. -/
def deepDrawing (lists : Nat) : Graph where
  name := "Deep"
  nodes := [deepFunction lists]

lemma legible_inLists (lists : Nat) :
    ((PropertyValue.string "x").inLists lists).Legible lists := by
  induction lists with
  | zero => exact PropertyValue.legible_string "x"
  | succ n ih =>
    rw [PropertyValue.inLists, PropertyValue.legible_list_iff, List.forall_mem_singleton]
    exact ih

/-- The environment is one level around the lists, and it is put one level deeper. -/
lemma legible_deepFunction (lists : Nat) : (deepFunction lists).Legible (lists + 2) := by
  have henvironment : (PropertyValue.map
      [("A", (PropertyValue.string "x").inLists lists)]).Legible (lists + 1) :=
    (PropertyValue.legible_map_singleton_iff (by decide) (by decide)).mpr (legible_inLists lists)
  have hrole : (PropertyValue.string "arn:aws:iam::1:role/r").Legible 0 :=
    PropertyValue.legible_string _
  refine ⟨Entries.forall_mem_cons_iff.mpr ⟨⟨hrole.wellNamed, hrole.unambiguous⟩,
    Entries.forall_mem_cons_iff.mpr ⟨⟨henvironment.wellNamed, henvironment.unambiguous⟩,
      Table.forall_mem_empty⟩⟩, Entries.forall_mem_cons_iff.mpr ⟨Nat.zero_le _,
    Entries.forall_mem_cons_iff.mpr ⟨Nat.add_le_add_right henvironment.levels 1,
      Table.forall_mem_empty⟩⟩⟩

lemma ofText_deepDrawing {lists : Nat} (h : (deepDrawing lists).toJson.levels ≤ levelLimit) :
    Graph.ofText (deepDrawing lists).toJson.pretty = .ok (deepDrawing lists) := by
  refine Graph.ofText_pretty_eq (fun n hn => ?_) h
  rw [List.mem_singleton.mp hn]
  exact (legible_deepFunction lists).1

/-- With 121 lists, the environment has 122 levels, and the template is read back. -/
theorem template_read_back_iff_deepDrawing :
    Graph.ofText (deepDrawing 121).toJson.pretty = .ok (deepDrawing 121) ∧
      Template.ofText (deepDrawing 121).template.pretty = .ok (deepDrawing 121).template ∧
      ∀ p, validateText p (deepDrawing 121).template.pretty =
        validate p (deepDrawing 121).template := by
  have hread : Graph.ofText (deepDrawing 121).toJson.pretty = .ok (deepDrawing 121) :=
    ofText_deepDrawing (by decide +kernel)
  obtain ⟨-, hsame, hshallow⟩ := template_read_back_iff _ _ hread
  refine ⟨hread, hsame (hshallow fun n hn => ?_)⟩
  rw [List.mem_singleton.mp hn]
  exact (legible_deepFunction 121).2

/-- With 122 lists, the drawing is still read and its template is valid, but the text of the
template is refused. -/
theorem template_deepDrawing_refused :
    Graph.ofText (deepDrawing 122).toJson.pretty = .ok (deepDrawing 122) ∧
      (∀ t, Template.ofText (deepDrawing 122).template.pretty ≠ .ok t) ∧
      (validate {} (deepDrawing 122).template).valid = true ∧
      (validateText {} (deepDrawing 122).template.pretty).valid = false := by
  have hdeep : (deepDrawing 122).template.toJson.levels = 128 := by decide +kernel
  have hrefused : ∀ t, Template.ofText (deepDrawing 122).template.pretty ≠ .ok t := by
    intro t ht
    have hlevels := Template.levels_le_of_ofText_pretty ht
    rw [hdeep] at hlevels
    exact absurd hlevels (by decide)
  refine ⟨ofText_deepDrawing (by decide +kernel), hrefused, by decide +kernel, ?_⟩
  cases htext : Template.ofText (deepDrawing 122).template.pretty with
  | ok t => exact absurd htext (hrefused t)
  | error e =>
    rw [validateText, htext]
    rfl

end CloudTemplate
