import CloudTemplate.Generation.Emission
import CloudTemplate.Proofs.Dependency.Names

/-!
# Building resources

A resource is built by setting properties and adding resources that must exist before it.  The
lemmas here say what each of these steps does to the entries, to a single property and to the
dependencies.  What all properties have, and each new one too, all properties have in the end
(`Resource.EachProperty`).

A value is `Silent` if no reference occurs in it, and a resource is `Grounded` if all that its
properties mention is also among the resources that must exist before it.  Silent properties keep a
resource grounded, and so do properties whose targets are added as dependencies along with them.
-/

namespace CloudTemplate

/-! ## Silent values -/

namespace PropertyValue

/-- No reference occurs in a value. -/
def Silent (v : PropertyValue) : Prop := ∀ reference, ¬ v.Mentions reference

@[simp]
lemma silent_bool (value : Bool) : Silent (.bool value) := by rintro reference ⟨⟩

@[simp]
lemma silent_number (value : Number) : Silent (.number value) := by rintro reference ⟨⟩

@[simp]
lemma silent_string (value : String) : Silent (.string value) := by rintro reference ⟨⟩

@[simp]
lemma silent_ofInt (n : Int) : Silent (.ofInt n) := silent_number _

@[simp]
lemma silent_list_iff {items : List PropertyValue} :
    Silent (.list items) ↔ ∀ item ∈ items, item.Silent := by
  constructor
  · intro h item hitem reference hmentions
    exact h reference (.item hitem hmentions)
  · intro h reference hmentions
    cases hmentions with
    | item hitem hmentions => exact h _ hitem reference hmentions

/-- A map that is no `Fn::Sub` is silent if its values are. -/
lemma silent_map_iff {entries : List (String × PropertyValue)}
    (hkeys : ∀ argument, entries ≠ [(subKey, argument)]) :
    Silent (.map entries) ↔ ∀ entry ∈ entries, entry.2.Silent := by
  constructor
  · intro h entry hentry reference hmentions
    exact h reference (.value (fun text bindings => hkeys _) hentry hmentions)
  · intro h reference hmentions
    cases hmentions with
    | value plain hmem hmentions => exact h _ hmem reference hmentions
    | placeholder _ | unbound _ _ | binding _ _ => exact absurd rfl (hkeys _)

@[simp]
lemma silent_map_cons_cons_iff {first second : String × PropertyValue}
    {more : List (String × PropertyValue)} : Silent (.map (first :: second :: more)) ↔
      ∀ entry ∈ first :: second :: more, entry.2.Silent :=
  silent_map_iff (by simp)

lemma silent_map_singleton_iff {key : String} {value : PropertyValue} (hkey : key ≠ subKey) :
    Silent (.map [(key, value)]) ↔ value.Silent := by
  rw [silent_map_iff (by simp [hkey])]
  simp

end PropertyValue

open PropertyValue

namespace Resource

variable {r : Resource} {name : String} {value : PropertyValue}

/-! ## The steps of building -/

lemma mem_set_iff {property : String} {v : PropertyValue} :
    (property, v) ∈ (r.set name value).properties.entries ↔
      property = name ∧ v = value ∨ property ≠ name ∧ (property, v) ∈ r.properties.entries :=
  Table.mem_entries_insert_iff

@[simp]
lemma typeName_of (type : ResourceType) : (Resource.of type).typeName = type.name := rfl

@[simp]
lemma typeName_set (name : String) (value : PropertyValue) :
    (r.set name value).typeName = r.typeName := rfl

@[simp]
lemma typeName_set? (name : String) (value : Option PropertyValue) :
    (r.set? name value).typeName = r.typeName := by
  cases value <;> rfl

@[simp]
lemma typeName_setIf (condition : Bool) (name : String) (value : PropertyValue) :
    (r.setIf condition name value).typeName = r.typeName := by
  cases condition <;> rfl

@[simp]
lemma typeName_placedIn (name : String) (id : Option String) :
    (r.placedIn name id).typeName = r.typeName := by
  cases id <;> rfl

@[simp]
lemma typeName_inGroups (name : String) (named : String → PropertyValue) (groups : List String) :
    (r.inGroups name named groups).typeName = r.typeName := by
  unfold inGroups
  split <;> rfl

@[simp]
lemma typeName_underRole (roleId : String) (arn : Option String) :
    (r.underRole roleId arn).typeName = r.typeName := by
  cases arn <;> rfl

@[simp]
lemma property?_of (type : ResourceType) (property : String) :
    (Resource.of type).property? property = none := rfl

lemma property?_set (property : String) : (r.set name value).property? property =
    if property = name then some value else r.property? property := by
  unfold property? set
  split
  · next h => rw [h, Table.get?_insert_self]
  · next h => rw [Table.get?_insert_of_ne _ _ h]

lemma property?_dependOn (id property : String) :
    (r.dependOn id).property? property = r.property? property := rfl

lemma property?_set? (property : String) (value : Option PropertyValue) :
    (r.set? name value).property? property =
      if property = name then value.or (r.property? property) else r.property? property := by
  cases value with
  | none => simp [set?]
  | some value => simp [set?, property?_set]

lemma property?_setIf (property : String) (condition : Bool) :
    (r.setIf condition name value).property? property =
      if property = name ∧ condition = true then some value else r.property? property := by
  cases condition with
  | false => simp [setIf]
  | true => simp [setIf, property?_set]

lemma property?_placedIn {property : String} (h : property ≠ name) (id : Option String) :
    (r.placedIn name id).property? property = r.property? property := by
  cases id with
  | none => rfl
  | some id => exact (property?_set property).trans (if_neg h)

lemma property?_placedIn_self (id : String) :
    (r.placedIn name (some id)).property? name = some (.ref id) :=
  (property?_set name).trans (if_pos rfl)

lemma property?_inGroups {property : String} (h : property ≠ name) (named : String → PropertyValue)
    (groups : List String) : (r.inGroups name named groups).property? property =
      r.property? property := by
  unfold inGroups
  split
  · rfl
  · exact (property?_set property).trans (if_neg h)

lemma property?_inGroups_self (named : String → PropertyValue) {groups : List String}
    (h : groups ≠ []) :
    (r.inGroups name named groups).property? name = some (.list (groups.map named)) := by
  have hsome : ¬ groups.isEmpty = true := by simpa using h
  rw [inGroups, if_neg hsome]
  exact (property?_set name).trans (if_pos rfl)

lemma property?_underRole {property : String} (h : property ≠ "Role") (roleId : String)
    (arn : Option String) : (r.underRole roleId arn).property? property = r.property? property := by
  cases arn with
  | some arn => exact (property?_set property).trans (if_neg h)
  | none => exact (property?_set property).trans (if_neg h)

@[simp]
lemma dependsOn_of (type : ResourceType) : (Resource.of type).dependsOn = [] := rfl

@[simp]
lemma dependsOn_set (name : String) (value : PropertyValue) :
    (r.set name value).dependsOn = r.dependsOn := rfl

@[simp]
lemma dependsOn_set? (name : String) (value : Option PropertyValue) :
    (r.set? name value).dependsOn = r.dependsOn := by
  cases value <;> rfl

@[simp]
lemma dependsOn_setIf (condition : Bool) (name : String) (value : PropertyValue) :
    (r.setIf condition name value).dependsOn = r.dependsOn := by
  cases condition <;> rfl

@[simp]
lemma mem_dependsOn_dependOn_iff {id target : String} :
    target ∈ (r.dependOn id).dependsOn ↔ target ∈ r.dependsOn ∨ target = id :=
  mem_pushNew

lemma dependsOn_placedIn (id : Option String) :
    (r.placedIn name id).dependsOn = pushAllNew r.dependsOn id.toList := by
  cases id <;> rfl

lemma dependsOn_inGroups (named : String → PropertyValue) (groups : List String) :
    (r.inGroups name named groups).dependsOn = pushAllNew r.dependsOn groups := by
  unfold inGroups
  split
  · next hnone => rw [List.isEmpty_iff.mp hnone, pushAllNew, List.foldl_nil]
  · rfl

lemma dependsOn_underRole (roleId : String) (arn : Option String) :
    (r.underRole roleId arn).dependsOn =
      pushAllNew r.dependsOn (if arn.isNone then [roleId] else []) := by
  cases arn <;> rfl

@[simp]
lemma mem_dependsOn_placedIn_iff {id : Option String} {target : String} :
    target ∈ (r.placedIn name id).dependsOn ↔ target ∈ r.dependsOn ∨ target ∈ id.toList := by
  rw [dependsOn_placedIn, mem_pushAllNew]

@[simp]
lemma mem_dependsOn_inGroups_iff {named : String → PropertyValue} {groups : List String}
    {target : String} : target ∈ (r.inGroups name named groups).dependsOn ↔
      target ∈ r.dependsOn ∨ target ∈ groups := by
  rw [dependsOn_inGroups, mem_pushAllNew]

@[simp]
lemma mem_dependsOn_underRole_iff {roleId target : String} {arn : Option String} :
    target ∈ (r.underRole roleId arn).dependsOn ↔
      target ∈ r.dependsOn ∨ arn = none ∧ target = roleId := by
  cases arn <;> simp [underRole]

/-! ## Each property -/

/-- Every property of a resource has what is asked of its name and value. -/
def EachProperty (Q : String → PropertyValue → Prop) (r : Resource) : Prop :=
  ∀ property v, (property, v) ∈ r.properties.entries → Q property v

namespace EachProperty

variable {Q : String → PropertyValue → Prop}

lemma of (type : ResourceType) : EachProperty Q (.of type) := Table.forall_mem_empty

lemma set (h : r.EachProperty Q) (hvalue : Q name value) : (r.set name value).EachProperty Q := by
  intro property v hmem
  rcases mem_set_iff.mp hmem with ⟨rfl, rfl⟩ | ⟨-, hmem⟩
  · exact hvalue
  · exact h property v hmem

lemma set? (h : r.EachProperty Q) {value : Option PropertyValue}
    (hvalue : ∀ v, value = some v → Q name v) : (r.set? name value).EachProperty Q := by
  cases value with
  | none => exact h
  | some value => exact h.set (hvalue value rfl)

lemma setIf (h : r.EachProperty Q) (condition : Bool) (hvalue : Q name value) :
    (r.setIf condition name value).EachProperty Q := by
  cases condition with
  | false => exact h
  | true => exact h.set hvalue

lemma placedIn (h : r.EachProperty Q) (id : Option String) (hname : ∀ id, Q name (.ref id)) :
    (r.placedIn name id).EachProperty Q := by
  cases id with
  | none => exact h
  | some id => exact h.set (hname id)

lemma inGroups (h : r.EachProperty Q) {named : String → PropertyValue} {groups : List String}
    (hname : Q name (.list (groups.map named))) :
    (r.inGroups name named groups).EachProperty Q := by
  unfold Resource.inGroups
  split
  · exact h
  · exact h.set hname

lemma underRole (h : r.EachProperty Q) {roleId : String} (arn : Option String)
    (hown : ∀ arn, Q "Role" (.string arn)) (hgenerated : Q "Role" (.getAtt roleId "Arn")) :
    (r.underRole roleId arn).EachProperty Q := by
  cases arn with
  | some arn => exact h.set (hown arn)
  | none => exact h.set hgenerated

end EachProperty

/-! ## Grounded resources -/

/-- All that is mentioned in the properties must exist before the resource. -/
def Grounded (r : Resource) : Prop :=
  ∀ reference, r.Mentions reference → reference.target ∈ r.dependsOn

lemma grounded_of (type : ResourceType) : (Resource.of type).Grounded := by
  rintro reference ⟨property, value, hmem, -⟩
  exact absurd hmem List.not_mem_nil

lemma mentions_set {reference : Reference} (h : (r.set name value).Mentions reference) :
    value.Mentions reference ∨ r.Mentions reference := by
  obtain ⟨property, v, hmem, hmentions⟩ := h
  rcases mem_set_iff.mp hmem with ⟨-, rfl⟩ | ⟨-, hmem⟩
  · exact .inl hmentions
  · exact .inr ⟨property, v, hmem, hmentions⟩

lemma Grounded.set (h : r.Grounded) (name : String) (hvalue : value.Silent) :
    (r.set name value).Grounded := by
  intro reference hmentions
  rcases mentions_set hmentions with hmentions | hmentions
  · exact absurd hmentions (hvalue reference)
  · exact h reference hmentions

lemma Grounded.set? (h : r.Grounded) (name : String) {value : Option PropertyValue}
    (hvalue : ∀ v, value = some v → v.Silent) : (r.set? name value).Grounded := by
  cases value with
  | none => exact h
  | some value => exact h.set name (hvalue value rfl)

lemma Grounded.setIf (h : r.Grounded) (condition : Bool) (name : String) (hvalue : value.Silent) :
    (r.setIf condition name value).Grounded := by
  cases condition with
  | false => exact h
  | true => exact h.set name hvalue

lemma Grounded.placedIn (h : r.Grounded) (name : String) (id : Option String) :
    (r.placedIn name id).Grounded := by
  cases id with
  | none => exact h
  | some id =>
    intro reference hmentions
    rw [mem_dependsOn_placedIn_iff, Option.toList_some, List.mem_singleton]
    rcases mentions_set hmentions with hmentions | hmentions
    · cases hmentions
      exact .inr rfl
    · exact .inl (h reference hmentions)

/-- Being placed in groups keeps a resource grounded, if each group is named by its id. -/
lemma Grounded.inGroups (h : r.Grounded) (name : String) {named : String → PropertyValue}
    (hnamed : ∀ id reference, (named id).Mentions reference → reference.target = id)
    (groups : List String) : (r.inGroups name named groups).Grounded := by
  intro reference hmentions
  rw [mem_dependsOn_inGroups_iff]
  unfold Resource.inGroups at hmentions
  split at hmentions
  · exact .inl (h reference hmentions)
  · rcases mentions_set hmentions with hmentions | hmentions
    · cases hmentions with
      | item hitem hmentions =>
        obtain ⟨id, hid, rfl⟩ := List.mem_map.mp hitem
        rw [hnamed id reference hmentions]
        exact .inr hid
    · exact .inl (h reference hmentions)

lemma Grounded.underRole (h : r.Grounded) (roleId : String) (arn : Option String) :
    (r.underRole roleId arn).Grounded := by
  cases arn with
  | some arn => exact h.set "Role" (silent_string arn)
  | none =>
    intro reference hmentions
    rw [mem_dependsOn_underRole_iff]
    rcases mentions_set hmentions with hmentions | hmentions
    · cases hmentions
      exact .inr ⟨rfl, rfl⟩
    · exact .inl (h reference hmentions)

end Resource

end CloudTemplate
