import CloudTemplate.Proofs.Reordering.Entries
import CloudTemplate.Proofs.Template.WellNamed

/-!
# Templates with their entries in another order

Two values are reorderings of each other if they differ in the order of the entries of maps alone,
at whatever depth (`PropertyValue.Reordered`); the items of lists keep their order.  The same is
said of JSON, of resources and outputs, and of whole templates (`Template.Reordered`).

Readings of a value that do not look into maps are the same for a reordering, and a name leads to
values that are reorderings again (`Reordered.rel_get?`).
-/

namespace CloudTemplate

/-- JSON values that differ in the order of the entries of objects alone. -/
inductive Json.Reordered : Json → Json → Prop
  | refl (j) : Reordered j j
  | array {items others} : List.Forall₂ Reordered items others →
      Reordered (.array items) (.array others)
  | object {entries arranged others : Entries Json} : entries.Perm arranged →
      Entries.Alike Reordered arranged others → Reordered (.object entries) (.object others)

/-- Values that differ in the order of the entries of maps alone. -/
inductive PropertyValue.Reordered : PropertyValue → PropertyValue → Prop
  | refl (v) : Reordered v v
  | list {items others} : List.Forall₂ Reordered items others →
      Reordered (.list items) (.list others)
  | map {entries arranged others : Entries PropertyValue} : entries.Perm arranged →
      Entries.Alike Reordered arranged others → Reordered (.map entries) (.map others)

/-- Resources that differ in the order of properties and of the entries of maps alone. -/
structure Resource.Reordered (r r' : Resource) : Prop where
  typeName : r.typeName = r'.typeName
  properties : Entries.Reordered PropertyValue.Reordered r.properties.entries r'.properties.entries
  dependsOn : r.dependsOn = r'.dependsOn

/-- Outputs that differ in the order of the entries of maps alone. -/
structure Output.Reordered (o o' : Output) : Prop where
  value : PropertyValue.Reordered o.value o'.value
  description : o.description = o'.description

/-- Templates that differ in the order of entries alone, at whatever depth. -/
structure Template.Reordered (t t' : Template) : Prop where
  formatVersion : t.formatVersion = t'.formatVersion
  description : t.description = t'.description
  parameters : Entries.Reordered Json.Reordered t.parameters.entries t'.parameters.entries
  resources : Entries.Reordered Resource.Reordered t.resources.entries t'.resources.entries
  outputs : Entries.Reordered Output.Reordered t.outputs.entries t'.outputs.entries

namespace PropertyValue

namespace Reordered

variable {v w : PropertyValue}

lemma list_iff {items : List PropertyValue} :
    Reordered (.list items) w ↔
      ∃ others, w = .list others ∧ List.Forall₂ Reordered items others := by
  constructor
  · intro h
    cases h with
    | refl => exact ⟨items, rfl, List.forall₂_same.mpr fun item _ => .refl item⟩
    | list hitems => exact ⟨_, rfl, hitems⟩
  · rintro ⟨others, rfl, hitems⟩
    exact .list hitems

lemma map_iff {entries : Entries PropertyValue} :
    Reordered (.map entries) w ↔
      ∃ others, w = .map others ∧ Entries.Reordered Reordered entries others := by
  constructor
  · intro h
    cases h with
    | refl => exact ⟨entries, rfl, .refl .refl entries⟩
    | map hperm halike => exact ⟨_, rfl, _, hperm, halike⟩
  · rintro ⟨others, rfl, arranged, hperm, halike⟩
    exact .map hperm halike

/-! ## Readings -/

lemma asText?_eq (h : Reordered v w) : v.asText? = w.asText? := by
  cases h <;> rfl

lemma asBool?_eq (h : Reordered v w) : v.asBool? = w.asBool? := by
  cases h <;> rfl

lemma asDouble?_eq (h : Reordered v w) : v.asDouble? = w.asDouble? := by
  cases h <;> rfl

lemma asInt64?_eq (h : Reordered v w) : v.asInt64? = w.asInt64? := by
  cases h <;> rfl

lemma isTruthy_eq (h : Reordered v w) : v.isTruthy = w.isTruthy := by
  cases h <;> rfl

lemma rel_asMap? (h : Reordered v w) :
    Option.Rel (Entries.Reordered Reordered) v.asMap? w.asMap? := by
  cases v with
  | map entries =>
    obtain ⟨others, rfl, hentries⟩ := map_iff.mp h
    exact .some hentries
  | _ => cases h <;> exact .none

/-- Only maps with one name are known at deployment, and those have no other order. -/
lemma isIntrinsic_eq (h : Reordered v w) : v.isIntrinsic = w.isIntrinsic := by
  cases v with
  | map entries =>
    obtain ⟨others, rfl, hentries⟩ := map_iff.mp h
    have hlength := hentries.length_eq
    match entries, others with
    | [], [] => rfl
    | [(name, v)], [_] =>
      obtain ⟨w, hw, -⟩ := Entries.Reordered.singleton_iff.mp hentries
      rw [hw]
      rfl
    | _ :: _ :: _, _ :: _ :: _ => rfl
  | _ => cases h <;> rfl

/-- A name leads to reorderings again. -/
lemma rel_get? (h : Reordered v w) (hnamed : v.WellNamed) (key : String) :
    Option.Rel Reordered (v.get? key) (w.get? key) := by
  cases v with
  | map entries =>
    obtain ⟨others, rfl, hentries⟩ := map_iff.mp h
    exact hentries.rel_find? (wellNamed_map_iff.mp hnamed).1 key
  | _ => cases h <;> exact .none

end Reordered

end PropertyValue

end CloudTemplate
