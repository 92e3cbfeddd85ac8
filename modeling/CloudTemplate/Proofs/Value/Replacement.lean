import CloudTemplate.Proofs.Table
import CloudTemplate.Value.Basic

/-!
# Putting a value in the place of a leaf

A text, a number and a truth value are the leaves of a property value that carry something.
`PropertyValue.Replaced` puts another value in the place of one of them, and names the place by the
steps that lead there.  Around the place everything stays: a map keeps its names, so that it is an
intrinsic just if it was one (`Replaced.isIntrinsic_eq`).  Whoever reads only scalars under a name
reads the same as before, except at the place itself (`Replaced.bind_get?_eq_ite`).
-/

namespace CloudTemplate

namespace PropertyValue

/-- Whether a value is a text, a number or a truth value. -/
def isScalar : PropertyValue → Bool
  | .bool _ | .number _ | .string _ => true
  | _ => false

/-- One step down into a value. -/
inductive Step where
  /-- To the item with an index. -/
  | item (index : Nat)
  /-- To the value under a name. -/
  | value (name : String)
deriving DecidableEq

/-- A value results from another by putting `w` in the place of the scalar to which the steps
lead. -/
inductive Replaced (w : PropertyValue) : List Step → PropertyValue → PropertyValue → Prop
  | here {leaf} : leaf.isScalar = true → Replaced w [] leaf w
  | item {items index item item' place} : items[index]? = some item →
      Replaced w place item item' →
      Replaced w (.item index :: place) (.list items) (.list (items.set index item'))
  | value {entries name value value' place} : Entries.find? entries name = some value →
      Replaced w place value value' →
      Replaced w (.value name :: place) (.map entries) (.map (Entries.put entries name value'))

/-- Whether a map with these names is an intrinsic. -/
lemma isIntrinsic_map_eq (entries : Entries PropertyValue) : (map entries).isIntrinsic =
    match Entries.keys entries with
    | [key] => beginsWith key functionLead
    | _ => false := by
  match entries with
  | [] | [(key, value)] | _ :: _ :: _ => rfl

lemma isScalar_eq_false_of_isIntrinsic {v : PropertyValue} (h : v.isIntrinsic = true) :
    v.isScalar = false := by
  cases v <;> first | rfl | cases h

lemma get?_eq_none_of_isScalar {v : PropertyValue} (h : v.isScalar = true) (key : String) :
    v.get? key = none := by
  cases v <;> first | rfl | cases h

namespace Replaced

variable {w v v' : PropertyValue} {place : List Step}

/-- In the place of a scalar there is room for nothing but the whole value. -/
lemma eq_of_isScalar (h : Replaced w place v v') (hscalar : v.isScalar = true) :
    place = [] ∧ v' = w := by
  cases h with
  | here => exact ⟨rfl, rfl⟩
  | item | value => cases hscalar

/-- A map keeps its names. -/
lemma keys_put {entries : Entries PropertyValue} {name : String} {value : PropertyValue}
    (h : Entries.find? entries name = some value) (value' : PropertyValue) :
    Entries.keys (Entries.put entries name value') = Entries.keys entries := by
  rw [Entries.keys_put, if_pos]
  exact Entries.mem_keys_of_mem (Entries.mem_of_find?_eq_some h)

/-- Below the top, nothing is made a scalar. -/
lemma isScalar_eq_false (h : Replaced w place v v') (hbelow : v.isScalar = false) :
    v'.isScalar = false := by
  cases h with
  | here hscalar => simp [hscalar] at hbelow
  | item | value => rfl

/-- Below the top, nothing is made an intrinsic or ceases to be one. -/
lemma isIntrinsic_eq (h : Replaced w place v v') (hbelow : v.isScalar = false) :
    v'.isIntrinsic = v.isIntrinsic := by
  cases h with
  | here hscalar => simp [hscalar] at hbelow
  | item => rfl
  | value hvalue => rw [isIntrinsic_map_eq, isIntrinsic_map_eq, keys_put hvalue]

lemma isIntrinsic (h : Replaced w place v v') (hw : w.isIntrinsic = true)
    (hv : v.isIntrinsic = true) : v'.isIntrinsic = true := by
  by_cases hscalar : v.isScalar = true
  · rwa [(h.eq_of_isScalar hscalar).2]
  · rwa [h.isIntrinsic_eq ((Bool.not_eq_true _).mp hscalar)]

/-- The steps into an intrinsic begin with the name of a function. -/
lemma exists_place_of_isIntrinsic (h : Replaced w place v v') (hv : v.isIntrinsic = true) :
    ∃ name rest, place = .value name :: rest ∧ beginsWith name functionLead = true := by
  cases h with
  | here hscalar => simp [isScalar_eq_false_of_isIntrinsic hv] at hscalar
  | item => cases hv
  | @value entries name value value' rest hvalue =>
    refine ⟨name, rest, rfl, ?_⟩
    have hname : name ∈ Entries.keys entries :=
      Entries.mem_keys_of_mem (Entries.mem_of_find?_eq_some hvalue)
    rw [isIntrinsic_map_eq] at hv
    split at hv
    · next key hkeys =>
      rw [hkeys, List.mem_singleton] at hname
      rwa [hname]
    · cases hv

/-- Below the top, no name is lost and none comes to be. -/
lemma get?_eq_none_iff (h : Replaced w place v v') (hbelow : v.isScalar = false) {key : String} :
    v'.get? key = none ↔ v.get? key = none := by
  cases h with
  | here hscalar => simp [hscalar] at hbelow
  | item => exact Iff.rfl
  | value hvalue =>
    show Entries.find? _ _ = none ↔ Entries.find? _ _ = none
    rw [Entries.find?_eq_none_iff, Entries.find?_eq_none_iff, keys_put hvalue]

/-- A name that the steps begin with is there. -/
lemma get?_ne_none {key : String} {rest : List Step} (h : Replaced w (.value key :: rest) v v') :
    v.get? key ≠ none := by
  cases h with
  | @value entries _ value value' _ hvalue =>
    show Entries.find? entries key ≠ none
    simp [hvalue]

/-- Below the top, what is there under a name stays or has a leaf replaced. -/
lemma exists_get?_eq_some (h : Replaced w place v v') (hbelow : v.isScalar = false) {key : String}
    {part : PropertyValue} (hpart : v.get? key = some part) :
    ∃ part', v'.get? key = some part' ∧ (part' = part ∨ ∃ rest, Replaced w rest part part') := by
  cases h with
  | here hscalar => simp [hscalar] at hbelow
  | item => exact ⟨part, hpart, .inl rfl⟩
  | @value entries name value value' rest hvalue hreplaced =>
    show ∃ part', Entries.find? (Entries.put entries name value') key = some part' ∧ _
    by_cases hname : key = name
    · subst hname
      have hsame : value = part := Option.some.inj (hvalue.symm.trans hpart)
      subst hsame
      exact ⟨value', Entries.find?_put_self _ _ _, .inr ⟨rest, hreplaced⟩⟩
    · exact ⟨part, (Entries.find?_put_of_ne _ _ hname).trans hpart, .inl rfl⟩

/-- Whoever reads only scalars under a name reads the same as before, and if the place is just that,
nothing. -/
lemma bind_get?_eq_ite {γ : Type} {read : PropertyValue → Option γ} (h : Replaced w place v v')
    (hbelow : v.isScalar = false) (hw : w.isScalar = false)
    (hread : ∀ part : PropertyValue, part.isScalar = false → read part = none) (key : String) :
    (v'.get? key).bind read = if place = [.value key] then none else (v.get? key).bind read := by
  cases h with
  | here hscalar => simp [hscalar] at hbelow
  | item => rfl
  | @value entries name value value' rest hvalue hreplaced =>
    show (Entries.find? (Entries.put entries name value') key).bind read =
      if _ then none else (Entries.find? entries key).bind read
    by_cases hname : key = name
    · subst hname
      rw [Entries.find?_put_self, hvalue]
      show read value' = if _ then none else read value
      by_cases hscalar : value.isScalar = true
      · obtain ⟨rfl, rfl⟩ := hreplaced.eq_of_isScalar hscalar
        rw [if_pos rfl, hread _ hw]
      · have hpart := (Bool.not_eq_true _).mp hscalar
        rw [hread value hpart, hread value' (hreplaced.isScalar_eq_false hpart), ite_self]
    · have hne : Step.value name :: rest ≠ [.value key] := by simp [Ne.symm hname]
      rw [Entries.find?_put_of_ne _ _ hname, if_neg hne]

end Replaced

end PropertyValue

end CloudTemplate
