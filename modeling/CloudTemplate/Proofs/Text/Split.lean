import CloudTemplate.Text.Ascii
import Mathlib.Data.List.TakeWhile

/-!
# Cutting texts at a character

A text is cut at the first occurrence of a character or at all of them.  What comes before the first
one does not have the character (`splitAtFirst_eq_some_iff`), and neither does any of the parts
between them (`splitAll_eq_iff`); put together again, the parts are the text.
-/

namespace CloudTemplate

variable {separator : Char} {text before after : List Char} {parts : List (List Char)}

/-! ## The first occurrence -/

lemma splitAtFirst_eq_none_iff : splitAtFirst separator text = none ↔ separator ∉ text := by
  have hnil : text.dropWhile (· != separator) = [] ↔ separator ∉ text := by
    rw [List.dropWhile_eq_nil_iff]
    simp only [bne_iff_ne]
    exact ⟨fun h hmem => h separator hmem rfl, fun h c hc he => h (he ▸ hc)⟩
  rw [← hnil]
  unfold splitAtFirst
  cases text.dropWhile (· != separator) <;> simp

lemma splitAtFirst_append (h : separator ∉ before) (after : List Char) :
    splitAtFirst separator (before ++ separator :: after) = some (before, after) := by
  have hpass : ∀ c ∈ before, (c != separator) = true := by
    intro c hc
    rw [bne_iff_ne]
    rintro rfl
    exact h hc
  rw [splitAtFirst, List.dropWhile_append_of_pos hpass, List.takeWhile_append_of_pos hpass]
  simp

lemma splitAtFirst_eq_some_iff :
    splitAtFirst separator text = some (before, after) ↔
      text = before ++ separator :: after ∧ separator ∉ before := by
  constructor
  · intro h
    have hmem : separator ∈ text := by
      by_contra habsent
      rw [splitAtFirst_eq_none_iff.mpr habsent] at h
      exact absurd h nofun
    obtain ⟨front, back, rfl, hnot⟩ := List.eq_append_cons_of_mem hmem
    rw [splitAtFirst_append hnot] at h
    obtain ⟨rfl, rfl⟩ := Prod.mk.inj (Option.some.inj h)
    exact ⟨rfl, hnot⟩
  · rintro ⟨rfl, hnot⟩
    exact splitAtFirst_append hnot after

/-! ## All occurrences -/

lemma splitAll_eq_splitOn (separator : Char) (text : List Char) :
    splitAll separator text = text.splitOn separator := by
  induction text with
  | nil => rfl
  | cons c text ih =>
    rw [splitAll, List.splitOn_cons_eq_if_modifyHead, ih]
    simp only [beq_iff_eq]
    split
    · rfl
    · obtain ⟨first, more, hparts⟩ :=
        List.exists_cons_of_ne_nil (List.splitOn_ne_nil separator text)
      rw [hparts]
      rfl

lemma not_mem_of_mem_splitAll {part : List Char} (h : part ∈ splitAll separator text) :
    separator ∉ part := by
  induction text generalizing part with
  | nil =>
    rw [splitAll, List.mem_singleton] at h
    rw [h]
    exact List.not_mem_nil
  | cons c text ih =>
    rw [splitAll] at h
    split at h
    · rcases List.mem_cons.mp h with rfl | h
      · exact List.not_mem_nil
      · exact ih h
    · next hc =>
      split at h
      · rw [List.mem_singleton.mp h]
        simpa using Ne.symm hc
      · next first more hparts =>
        rw [hparts] at ih
        rcases List.mem_cons.mp h with rfl | h
        · exact List.not_mem_cons_of_ne_of_not_mem (Ne.symm hc) (ih List.mem_cons_self)
        · exact ih (List.mem_cons_of_mem _ h)

/-- The parts are those texts without the character between which it stands. -/
lemma splitAll_eq_iff : splitAll separator text = parts ↔
    parts ≠ [] ∧ (∀ part ∈ parts, separator ∉ part) ∧ [separator].intercalate parts = text := by
  constructor
  · rintro rfl
    refine ⟨?_, fun part hpart => not_mem_of_mem_splitAll hpart, ?_⟩
    · rw [splitAll_eq_splitOn]
      exact List.splitOn_ne_nil _ _
    · rw [splitAll_eq_splitOn]
      exact List.intercalate_splitOn separator
  · rintro ⟨hsome, hparts, rfl⟩
    rw [splitAll_eq_splitOn]
    exact List.splitOn_intercalate separator hparts hsome

end CloudTemplate
