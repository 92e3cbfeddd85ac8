import CloudTemplate.Proofs.Json.Basic
import CloudTemplate.Value.Basic

/-!
# Property values by their parts

What is shown of all property values is shown of lists from their items and of maps from their
values (`PropertyValue.induction`).  What is said of everything inside a value, at whatever depth,
is said with `PropertyValue.Inside`; `forall_inside_list_iff` and `forall_inside_map_iff` take it
one level down.
-/

namespace CloudTemplate

namespace PropertyValue

/-- Induction over the parts of a value. -/
@[elab_as_elim, induction_eliminator]
theorem induction {motive : PropertyValue → Prop} (null : motive .null)
    (bool : ∀ value, motive (.bool value)) (number : ∀ value, motive (.number value))
    (string : ∀ value, motive (.string value))
    (list : ∀ items, (∀ item ∈ items, motive item) → motive (.list items))
    (map : ∀ entries : Entries PropertyValue,
      (∀ name value, (name, value) ∈ entries → motive value) → motive (.map entries))
    (ref : ∀ target, motive (.ref target))
    (getAtt : ∀ target attributeName, motive (.getAtt target attributeName)) :
    ∀ v, motive v
  | .null => null
  | .bool value => bool value
  | .number value => number value
  | .string value => string value
  | .list items => list items fun item _ =>
    induction null bool number string list map ref getAtt item
  | .map entries => map entries fun _ value _ =>
    induction null bool number string list map ref getAtt value
  | .ref target => ref target
  | .getAtt target attributeName => getAtt target attributeName
termination_by v => sizeOf v
decreasing_by
  · have hlt := List.sizeOf_lt_of_mem ‹item ∈ items›
    simp only [PropertyValue.list.sizeOf_spec]
    omega
  · have hlt := List.sizeOf_lt_of_mem ‹(_, value) ∈ entries›
    simp only [Prod.mk.sizeOf_spec, PropertyValue.map.sizeOf_spec] at hlt ⊢
    omega

/-! ## What stands inside -/

/-- A value stands inside another one, at whatever depth. -/
inductive Inside (w : PropertyValue) : PropertyValue → Prop
  | self : Inside w w
  | item {items item} : item ∈ items → Inside w item → Inside w (.list items)
  | value {entries key value} : (key, value) ∈ entries → Inside w value → Inside w (.map entries)

variable {P : PropertyValue → Prop}

lemma forall_inside_list_iff {items : List PropertyValue} :
    (∀ w, Inside w (.list items) → P w) ↔
      P (.list items) ∧ ∀ item ∈ items, ∀ w, Inside w item → P w := by
  constructor
  · exact fun h => ⟨h _ .self, fun item hitem w hinside => h w (.item hitem hinside)⟩
  · rintro ⟨hself, hitems⟩ w hinside
    cases hinside with
    | self => exact hself
    | item hitem hinside => exact hitems _ hitem w hinside

lemma forall_inside_map_iff {entries : Entries PropertyValue} :
    (∀ w, Inside w (.map entries) → P w) ↔
      P (.map entries) ∧ ∀ name value, (name, value) ∈ entries → ∀ w, Inside w value → P w := by
  constructor
  · exact fun h => ⟨h _ .self, fun name value hmem w hinside => h w (.value hmem hinside)⟩
  · rintro ⟨hself, hvalues⟩ w hinside
    cases hinside with
    | self => exact hself
    | value hmem hinside => exact hvalues _ _ hmem w hinside

/-- A value inside so many lists. -/
def inLists (v : PropertyValue) : Nat → PropertyValue
  | 0 => v
  | n + 1 => .list [v.inLists n]

/-! ## Part by part -/

lemma toItems_eq_map (items : List PropertyValue) : toItems items = items.map toJson := by
  induction items with
  | nil => rfl
  | cons item more ih => rw [toItems, ih, List.map_cons]

lemma toEntries_eq_map (entries : Entries PropertyValue) :
    toEntries entries = entries.map fun entry => (entry.1, entry.2.toJson) := by
  induction entries with
  | nil => rfl
  | cons entry more ih => rw [toEntries, ih, List.map_cons]

lemma ofItems_eq_map (items : List Json) : ofItems items = items.map ofJson := by
  induction items with
  | nil => rfl
  | cons item more ih => rw [ofItems, ih, List.map_cons]

lemma ofEntries_eq_map (entries : Entries Json) :
    ofEntries entries = entries.map fun entry => (entry.1, ofJson entry.2) := by
  induction entries with
  | nil => rfl
  | cons entry more ih => rw [ofEntries, ih, List.map_cons]

lemma keys_toEntries (entries : Entries PropertyValue) :
    Entries.keys (toEntries entries) = Entries.keys entries := by
  rw [toEntries_eq_map, Entries.keys, List.map_map]
  rfl

lemma keys_ofEntries (entries : Entries Json) :
    Entries.keys (ofEntries entries) = Entries.keys entries := by
  rw [ofEntries_eq_map, Entries.keys, List.map_map]
  rfl

/-! ## Names -/

/-- No map inside a value has a name twice. -/
def WellNamed (v : PropertyValue) : Prop := v.toJson.WellNamed

@[simp]
lemma wellNamed_null : WellNamed .null := .null

@[simp]
lemma wellNamed_bool (value : Bool) : WellNamed (.bool value) := .bool value

@[simp]
lemma wellNamed_number (value : Number) : WellNamed (.number value) := .number value

@[simp]
lemma wellNamed_string (value : String) : WellNamed (.string value) := .string value

@[simp]
lemma wellNamed_list_iff {items : List PropertyValue} :
    WellNamed (.list items) ↔ ∀ item ∈ items, item.WellNamed := by
  simp [WellNamed, toJson, toItems_eq_map]

@[simp]
lemma wellNamed_map_iff {entries : Entries PropertyValue} :
    WellNamed (.map entries) ↔ (Entries.keys entries).Nodup ∧
      ∀ name value, (name, value) ∈ entries → value.WellNamed := by
  rw [WellNamed, toJson, Json.wellNamed_object_iff, keys_toEntries, toEntries_eq_map]
  simp only [List.mem_map, Prod.mk.injEq, Prod.exists]
  refine and_congr Iff.rfl ⟨fun h name value hmem => ?_, ?_⟩
  · exact h name value.toJson ⟨name, value, hmem, rfl, rfl⟩
  · rintro h _ _ ⟨name, value, hmem, rfl, rfl⟩
    exact h name value hmem

@[simp]
lemma wellNamed_ref (target : String) : WellNamed (.ref target) := by
  simp [WellNamed, toJson, Entries.keys]

@[simp]
lemma wellNamed_getAtt (target name : String) : WellNamed (.getAtt target name) := by
  simp [WellNamed, toJson, Entries.keys, Json.strings]

end PropertyValue

end CloudTemplate
