import CloudTemplate.Proofs.Value.Basic
import CloudTemplate.Reference.Scan
import Mathlib.Tactic.Common

/-!
# What a value mentions

`PropertyValue.Mentions` says that a reference occurs in a value, at whatever depth, and
`PropertyValue.nesting` counts the levels below a value.  Both can be told by the parts into which a
scan takes a value apart (`mentions_iff`, `nesting_le_iff`).

The map of variables beside the text of an `Fn::Sub` is a part of the `Fn::Sub` and not a value of
its own: its names are those of variables, and what occurs in it occurs in what they are bound to.

Three shapes can make a reference, and `PropertyValue.IsLink` lists them: wherever one occurs, some
value inside has one of these shapes (`exists_isLink_of_mentions`).
-/

namespace CloudTemplate

namespace PropertyValue

/-- A reference occurs in a value. -/
inductive Mentions : PropertyValue → Reference → Prop
  | ref {target} : Mentions (.ref target) (.ref target)
  | getAtt {target name} : Mentions (.getAtt target name) (.getAtt target name)
  | item {items item r} : item ∈ items → Mentions item r → Mentions (.list items) r
  | value {entries key value r}
      (plain : ∀ text bindings, entries ≠ [(subKey, .list [.string text, .map bindings])]) :
      (key, value) ∈ entries → Mentions value r → Mentions (.map entries) r
  /-- A placeholder in the text of an `Fn::Sub`. -/
  | placeholder {text name} : name ∈ subVariables text →
      Mentions (.map [(subKey, .string text)]) (.sub name)
  /-- A placeholder in the text of an `Fn::Sub` that is not bound beside it. -/
  | unbound {text bindings name} : name ∈ subVariables text → name ∉ Entries.keys bindings →
      Mentions (.map [(subKey, .list [.string text, .map bindings])]) (.sub name)
  | binding {text bindings key value r} : (key, value) ∈ bindings → Mentions value r →
      Mentions (.map [(subKey, .list [.string text, .map bindings])]) r

/-- A value of a shape that names other resources: a reference, an attribute, or a map with the one
name `Fn::Sub`. -/
inductive IsLink : PropertyValue → Prop
  | ref (target) : IsLink (.ref target)
  | getAtt (target name) : IsLink (.getAtt target name)
  | sub (argument) : IsLink (.map [(subKey, argument)])

/-- Where a reference occurs, there is a value inside that makes it. -/
lemma exists_isLink_of_mentions {v : PropertyValue} {r : Reference} (h : v.Mentions r) :
    ∃ w, Inside w v ∧ w.IsLink := by
  induction h with
  | ref => exact ⟨_, .self, .ref _⟩
  | getAtt => exact ⟨_, .self, .getAtt _ _⟩
  | placeholder _ | unbound _ _ | binding _ _ _ => exact ⟨_, .self, .sub _⟩
  | item hitem _ ih =>
    obtain ⟨w, hinside, hlink⟩ := ih
    exact ⟨w, .item hitem hinside, hlink⟩
  | value _ hmem _ ih =>
    obtain ⟨w, hinside, hlink⟩ := ih
    exact ⟨w, .value hmem hinside, hlink⟩

lemma size_le_sizeItems {part : PropertyValue} {parts : List PropertyValue} (h : part ∈ parts) :
    part.size ≤ sizeItems parts := by
  induction parts with
  | nil => simp at h
  | cons first more ih =>
    rw [sizeItems]
    rcases List.mem_cons.mp h with rfl | h
    · omega
    · have := ih h
      omega

lemma size_lt_of_mem_parts {part v : PropertyValue} (h : part ∈ v.parts.2) :
    part.size < v.size :=
  Nat.lt_of_le_of_lt (size_le_sizeItems h) (sizeItems_parts_lt v)

/-- How many levels lie below a value: one more than below the deepest of the values inside it. -/
def nesting (v : PropertyValue) : Nat :=
  (v.parts.2.attach.map fun part => nesting part.1 + 1).foldr max 0
termination_by v.size
decreasing_by exact size_lt_of_mem_parts part.2

lemma nesting_le_iff {v : PropertyValue} {n : Nat} :
    v.nesting ≤ n ↔ ∀ part ∈ v.parts.2, part.nesting + 1 ≤ n := by
  have hmax : ∀ depths : List Nat, depths.foldr max 0 ≤ n ↔ ∀ depth ∈ depths, depth ≤ n := by
    intro depths
    induction depths with
    | nil => simp
    | cons depth more ih => rw [List.foldr_cons, Nat.max_le, ih, List.forall_mem_cons]
  rw [nesting, hmax]
  simp

/-- A value has no more levels than values inside it. -/
lemma nesting_le_size (v : PropertyValue) : v.nesting ≤ v.size := by
  refine nesting_le_iff.mpr fun part hpart => ?_
  have hlt := size_lt_of_mem_parts hpart
  have := nesting_le_size part
  omega
termination_by v.size

lemma mem_subReferences {text : String} {supplied : List String} {r : Reference} :
    r ∈ subReferences text supplied ↔
      ∃ name ∈ subVariables text, name ∉ supplied ∧ Reference.sub name = r := by
  simp [subReferences, and_assoc]

lemma mem_values {entries : List (String × PropertyValue)} {value : PropertyValue} :
    value ∈ Entries.values entries ↔ ∃ key, (key, value) ∈ entries := by
  simp [Entries.values]

/-- What an `Fn::Sub` mentions is what its argument contributes. -/
lemma mentions_sub_iff {argument : PropertyValue} {r : Reference} :
    Mentions (.map [(subKey, argument)]) r ↔
      r ∈ argument.subParts.1 ∨ ∃ part ∈ argument.subParts.2, part.Mentions r := by
  constructor
  · intro h
    cases h with
    | value plain hmem h =>
      -- As any other map: its one value is the argument, of whatever shape `subParts` takes apart.
      obtain ⟨rfl, rfl⟩ : _ ∧ _ := by simpa using hmem
      unfold subParts
      split
      · nomatch h
      · next text bindings => exact absurd rfl (plain text bindings)
      · cases h with
        | item hitem h => exact .inr ⟨_, hitem, h⟩
      · exact .inr ⟨_, List.mem_singleton_self _, h⟩
    | placeholder hname => exact .inl (mem_subReferences.mpr ⟨_, hname, List.not_mem_nil, rfl⟩)
    | unbound hname hfree => exact .inl (mem_subReferences.mpr ⟨_, hname, hfree, rfl⟩)
    | binding hmem h => exact .inr ⟨_, mem_values.mpr ⟨_, hmem⟩, h⟩
  · intro h
    unfold subParts at h
    split at h
    · next text =>
      obtain ⟨name, hname, -, rfl⟩ : ∃ name ∈ subVariables text, name ∉ [] ∧ _ = r := by
        simpa [mem_subReferences] using h
      exact .placeholder hname
    · next text bindings =>
      rcases h with h | ⟨part, hpart, h⟩
      · obtain ⟨name, hname, hfree, rfl⟩ := mem_subReferences.mp h
        exact .unbound hname hfree
      · obtain ⟨key, hkey⟩ := mem_values.mp hpart
        exact .binding hkey h
    · next first second hplain =>
      obtain ⟨part, hpart, h⟩ := h.resolve_left List.not_mem_nil
      refine .value ?_ (List.mem_singleton_self _) (.item hpart h)
      rintro text bindings ⟨⟩
      exact hplain text bindings rfl rfl
    · next htext hplain hpair =>
      obtain ⟨part, hpart, hmentions⟩ := h.resolve_left List.not_mem_nil
      rw [List.mem_singleton.mp hpart] at hmentions
      refine .value ?_ (List.mem_singleton_self _) hmentions
      rintro text bindings ⟨⟩
      exact hplain text bindings rfl

lemma parts_map_of_ne {entries : List (String × PropertyValue)}
    (h : ∀ argument, entries ≠ [(subKey, argument)]) :
    parts (.map entries) = ([], Entries.values entries) := by
  simp only [parts]
  split
  · next key argument =>
    split
    · next hkey => exact absurd (by rw [hkey]) (h argument)
    · rfl
  · rfl

/-- What a value mentions is what it refers to itself and what the values inside it mention. -/
lemma mentions_iff {v : PropertyValue} {r : Reference} :
    v.Mentions r ↔ r ∈ v.parts.1 ∨ ∃ part ∈ v.parts.2, part.Mentions r := by
  match v with
  | .null | .bool _ | .number _ | .string _ =>
    simp only [parts, List.not_mem_nil, false_and, exists_false, or_self, iff_false]
    rintro ⟨⟩
  | .ref target =>
    simp only [parts, List.mem_singleton, List.not_mem_nil, false_and, exists_false, or_false]
    exact ⟨fun h => by cases h; rfl, fun h => h ▸ .ref⟩
  | .getAtt target name =>
    simp only [parts, List.mem_singleton, List.not_mem_nil, false_and, exists_false, or_false]
    exact ⟨fun h => by cases h; rfl, fun h => h ▸ .getAtt⟩
  | .list items =>
    simp only [parts, List.not_mem_nil, false_or]
    constructor
    · intro h
      cases h with
      | item hitem h => exact ⟨_, hitem, h⟩
    · rintro ⟨item, hitem, h⟩
      exact .item hitem h
  | .map entries =>
    by_cases hsub : ∃ argument, entries = [(subKey, argument)]
    · obtain ⟨argument, rfl⟩ := hsub
      rw [mentions_sub_iff]
      simp [parts]
    · push Not at hsub
      rw [parts_map_of_ne hsub]
      simp only [List.not_mem_nil, false_or, mem_values]
      constructor
      · intro h
        cases h with
        | value plain hmem h => exact ⟨_, ⟨_, hmem⟩, h⟩
        | placeholder _ | unbound _ _ | binding _ _ => exact absurd rfl (hsub _)
      · rintro ⟨value, ⟨key, hmem⟩, h⟩
        exact .value (fun text bindings => hsub _) hmem h

end PropertyValue

end CloudTemplate
