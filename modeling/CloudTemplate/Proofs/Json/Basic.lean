import CloudTemplate.Json.Basic
import CloudTemplate.Proofs.Table

/-!
# JSON values by their parts

What is shown of all JSON values is shown of arrays from their items and of objects from their
values (`Json.induction`).  Two notions are said of every level of a value: that no object has a
name twice (`Json.WellNamed`), and how many arrays and objects lie inside one another
(`Json.levels`).
-/

namespace CloudTemplate

namespace Json

/-- Induction over the parts of a value. -/
@[elab_as_elim, induction_eliminator]
theorem induction {motive : Json → Prop} (null : motive .null)
    (bool : ∀ value, motive (.bool value)) (number : ∀ value, motive (.number value))
    (string : ∀ value, motive (.string value))
    (array : ∀ items, (∀ item ∈ items, motive item) → motive (.array items))
    (object : ∀ entries : Entries Json,
      (∀ name value, (name, value) ∈ entries → motive value) → motive (.object entries)) :
    ∀ j, motive j
  | .null => null
  | .bool value => bool value
  | .number value => number value
  | .string value => string value
  | .array items => array items fun item _ =>
    induction null bool number string array object item
  | .object entries => object entries fun _ value _ =>
    induction null bool number string array object value
termination_by j => sizeOf j
decreasing_by
  · have hlt := List.sizeOf_lt_of_mem ‹item ∈ items›
    simp only [Json.array.sizeOf_spec]
    omega
  · have hlt := List.sizeOf_lt_of_mem ‹(_, value) ∈ entries›
    simp only [Prod.mk.sizeOf_spec, Json.object.sizeOf_spec] at hlt ⊢
    omega

/-! ## Names -/

/-- No object inside a value has a name twice. -/
inductive WellNamed : Json → Prop
  | null : WellNamed .null
  | bool (value) : WellNamed (.bool value)
  | number (value) : WellNamed (.number value)
  | string (value) : WellNamed (.string value)
  | array {items} : (∀ item ∈ items, WellNamed item) → WellNamed (.array items)
  | object {entries} : (Entries.keys entries).Nodup →
      (∀ name value, (name, value) ∈ entries → WellNamed value) → WellNamed (.object entries)

attribute [simp] WellNamed.null WellNamed.bool WellNamed.number WellNamed.string

@[simp]
lemma wellNamed_array_iff {items : List Json} :
    WellNamed (.array items) ↔ ∀ item ∈ items, item.WellNamed := by
  constructor
  · rintro ⟨⟩
    assumption
  · exact .array

@[simp]
lemma wellNamed_object_iff {entries : Entries Json} :
    WellNamed (.object entries) ↔ (Entries.keys entries).Nodup ∧
      ∀ name value, (name, value) ∈ entries → value.WellNamed := by
  constructor
  · rintro ⟨⟩
    constructor <;> assumption
  · exact fun h => .object h.1 h.2

/-! ## Levels -/

mutual

/-- How many arrays and objects lie inside one another. -/
def levels : Json → Nat
  | .array items => levelsOfItems items + 1
  | .object entries => levelsOfEntries entries + 1
  | _ => 0

/-- The levels of the deepest of some items. -/
def levelsOfItems : List Json → Nat
  | [] => 0
  | item :: more => max item.levels (levelsOfItems more)

/-- The levels of the deepest value of some entries. -/
def levelsOfEntries : List (String × Json) → Nat
  | [] => 0
  | (_, value) :: more => max value.levels (levelsOfEntries more)

end

lemma levelsOfItems_le_iff {items : List Json} {n : Nat} :
    levelsOfItems items ≤ n ↔ ∀ item ∈ items, item.levels ≤ n := by
  induction items with
  | nil => simp [levelsOfItems]
  | cons item more ih => rw [levelsOfItems, Nat.max_le, ih, List.forall_mem_cons]

lemma levelsOfEntries_le_iff {entries : Entries Json} {n : Nat} :
    levelsOfEntries entries ≤ n ↔ ∀ name value, (name, value) ∈ entries → value.levels ≤ n := by
  induction entries with
  | nil => simp [levelsOfEntries]
  | cons entry more ih =>
    obtain ⟨name, value⟩ := entry
    rw [levelsOfEntries, Nat.max_le, ih, Entries.forall_mem_cons_iff]

end Json

end CloudTemplate
