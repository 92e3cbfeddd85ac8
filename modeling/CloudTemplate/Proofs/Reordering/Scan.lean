import CloudTemplate.Proofs.Reference.Within
import CloudTemplate.Proofs.Reference.Work
import CloudTemplate.Proofs.Reordering.Value

/-!
# Scans of reorderings

A value and a reordering of it have the same references up to order and the same nesting
(`references_scan_perm`, `truncated_scan_eq`).  One step suffices, since scan and nesting are
defined by the parts of a value: the references that reorderings make themselves are the same, and
the values inside them are the same up to order and reordering (`parts_of_reordered`).
-/

namespace CloudTemplate

namespace PropertyValue

variable {v w : PropertyValue}

/-- What the text of an `Fn::Sub` contributes depends on which names are supplied beside it, and not
on their order. -/
lemma subReferences_eq_of_perm (text : String) {supplied others : List String}
    (h : supplied.Perm others) : subReferences text supplied = subReferences text others := by
  unfold subReferences
  congr 1
  apply List.filter_congr
  intro name _
  simp [h.mem_iff]

/-- The values inside one value are those inside another, up to order and reordering. -/
def PartsReordered (parts others : List PropertyValue) : Prop :=
  ∃ arranged, parts.Perm arranged ∧ List.Forall₂ Reordered arranged others

lemma partsReordered_of_forall₂ {parts others : List PropertyValue}
    (h : List.Forall₂ Reordered parts others) : PartsReordered parts others :=
  ⟨parts, .refl _, h⟩

lemma partsReordered_values {entries others : Entries PropertyValue}
    (h : Entries.Reordered Reordered entries others) :
    PartsReordered (Entries.values entries) (Entries.values others) := by
  obtain ⟨arranged, hperm, halike⟩ := h
  refine ⟨Entries.values arranged, hperm.map Prod.snd, ?_⟩
  unfold Entries.values
  rw [List.forall₂_map_left_iff, List.forall₂_map_right_iff]
  exact halike.forall₂.imp fun _ _ hrel => hrel.2

lemma subParts_list_of_length_ne {items : List PropertyValue} (h : items.length ≠ 2) :
    subParts (.list items) = ([], [.list items]) := by
  unfold subParts
  split <;> simp_all

/-- The argument of an `Fn::Sub` binds variables if it has a text and then a map. -/
lemma subParts_pair (first second : PropertyValue) :
    subParts (.list [first, second]) =
      match first.asText?, second.asMap? with
      | some text, some bindings =>
        (subReferences text (Entries.keys bindings), Entries.values bindings)
      | _, _ => ([], [first, second]) := by
  cases first <;> cases second <;> rfl

lemma subParts_of_reordered (h : Reordered v w) :
    v.subParts.1 = w.subParts.1 ∧ PartsReordered v.subParts.2 w.subParts.2 := by
  have hself : ∀ {v w : PropertyValue}, Reordered v w → PartsReordered [v] [w] := by
    intro v w h
    exact partsReordered_of_forall₂ (.cons h .nil)
  cases h with
  | refl => exact ⟨rfl, partsReordered_of_forall₂ (List.forall₂_same.mpr fun part _ => .refl part)⟩
  | map hperm halike => exact ⟨rfl, hself (.map hperm halike)⟩
  | @list items others hitems =>
    by_cases hlength : items.length = 2
    · obtain ⟨first, second, rfl⟩ := List.length_eq_two.mp hlength
      obtain ⟨first', _, hfirst, htail, rfl⟩ := List.forall₂_cons_left_iff.mp hitems
      obtain ⟨second', _, hsecond, hnil, rfl⟩ := List.forall₂_cons_left_iff.mp htail
      rw [List.forall₂_nil_left_iff.mp hnil]
      have hplain : PartsReordered [first, second] [first', second'] :=
        partsReordered_of_forall₂ (.cons hfirst (.cons hsecond .nil))
      have hbindings := hsecond.rel_asMap?
      rw [subParts_pair, subParts_pair, ← hfirst.asText?_eq]
      cases first.asText? with
      | none => exact ⟨rfl, hplain⟩
      | some text =>
        generalize second.asMap? = bindings, second'.asMap? = bindings' at hbindings
        cases hbindings with
        | none => exact ⟨rfl, hplain⟩
        | some hentries =>
          exact ⟨subReferences_eq_of_perm text hentries.keys_perm, partsReordered_values hentries⟩
    · have hlength' : others.length ≠ 2 := hitems.length_eq ▸ hlength
      rw [subParts_list_of_length_ne hlength, subParts_list_of_length_ne hlength']
      exact ⟨rfl, hself (.list hitems)⟩

lemma parts_of_reordered (h : Reordered v w) :
    v.parts.1 = w.parts.1 ∧ PartsReordered v.parts.2 w.parts.2 := by
  cases v with
  | list items =>
    obtain ⟨others, rfl, hitems⟩ := Reordered.list_iff.mp h
    exact ⟨rfl, partsReordered_of_forall₂ hitems⟩
  | map entries =>
    obtain ⟨others, rfl, hentries⟩ := Reordered.map_iff.mp h
    have hlength := hentries.length_eq
    match entries, others with
    | [], [] => exact ⟨rfl, partsReordered_values hentries⟩
    | [(key, argument)], [_] =>
      obtain ⟨argument', hother, hargument⟩ := Entries.Reordered.singleton_iff.mp hentries
      rw [hother]
      simp only [parts]
      split
      · exact subParts_of_reordered hargument
      · exact ⟨rfl, partsReordered_of_forall₂ (.cons hargument .nil)⟩
    | _ :: _ :: _, _ :: _ :: _ => exact ⟨rfl, partsReordered_values hentries⟩
  | _ =>
    cases h
    exact ⟨rfl, partsReordered_of_forall₂ .nil⟩

lemma PartsReordered.exists_of_mem {parts others : List PropertyValue}
    (h : PartsReordered parts others) : (∀ part ∈ parts, ∃ other ∈ others, Reordered part other) ∧
      ∀ other ∈ others, ∃ part ∈ parts, Reordered part other := by
  obtain ⟨arranged, hperm, hrel⟩ := h
  obtain ⟨hleft, hright⟩ := exists_of_mem_forall₂ hrel
  constructor
  · intro part hpart
    exact hleft part (hperm.mem_iff.mp hpart)
  · intro other hother
    obtain ⟨part, hpart, hrel⟩ := hright other hother
    exact ⟨part, hperm.mem_iff.mpr hpart, hrel⟩

lemma nesting_eq_of_reordered {v w : PropertyValue} (h : Reordered v w) :
    v.nesting = w.nesting := by
  obtain ⟨hleft, hright⟩ := (parts_of_reordered h).2.exists_of_mem
  -- By recursion on the size of the first value: the parts of either have partners in the other.
  apply Nat.le_antisymm
  · rw [nesting_le_iff]
    intro part hpart
    obtain ⟨other, hother, hrel⟩ := hleft part hpart
    rw [nesting_eq_of_reordered hrel]
    exact nesting_le_iff.mp (Nat.le_refl _) other hother
  · rw [nesting_le_iff]
    intro other hother
    obtain ⟨part, hpart, hrel⟩ := hright other hother
    rw [← nesting_eq_of_reordered hrel]
    exact nesting_le_iff.mp (Nat.le_refl _) part hpart
termination_by v.size
decreasing_by all_goals exact size_lt_of_mem_parts hpart

variable {limit : Nat}

/-- At whatever depth, a reordering has the same references up to order. -/
lemma references_scanAt_perm {v w : PropertyValue} (h : Reordered v w) (depth : Nat) :
    (scanAt limit depth v).references.Perm (scanAt limit depth w).references := by
  by_cases hdepth : limit < depth
  · rw [scanAt_of_lt hdepth, scanAt_of_lt hdepth]
  · obtain ⟨hown, arranged, hperm, hrel⟩ := parts_of_reordered h
    have hle : depth ≤ limit := Nat.not_lt.mp hdepth
    rw [scanAt_of_le hle, scanAt_of_le hle, Scan.references_append, Scan.references_append,
      references_scanWork_map, references_scanWork_map, hown]
    apply List.Perm.append_left
    refine (hperm.flatMap_right _).trans (flatMap_perm_of_forall₂ hrel ?_)
    intro part hpart other hother
    exact references_scanAt_perm hother (depth + 1)
termination_by v.size
decreasing_by exact size_lt_of_mem_parts (hperm.mem_iff.mpr hpart)

lemma references_scan_perm (h : Reordered v w) :
    (scan limit v).references.Perm (scan limit w).references :=
  references_scanAt_perm h 0

/-- The scan of a reordering is cut short at the same limits. -/
lemma truncated_scan_eq (h : Reordered v w) :
    (scan limit v).truncated = (scan limit w).truncated := by
  have hiff : (scan limit v).truncated = false ↔ (scan limit w).truncated = false := by
    rw [scan_truncated_eq_false_iff, scan_truncated_eq_false_iff, nesting_eq_of_reordered h]
  generalize (scan limit v).truncated = cut, (scan limit w).truncated = cut' at hiff
  cases cut <;> cases cut' <;> simp_all

end PropertyValue

end CloudTemplate
