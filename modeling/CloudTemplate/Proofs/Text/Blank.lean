import CloudTemplate.Proofs.Text.Ascii
import CloudTemplate.Text.Blank
import Mathlib.Data.List.DropRight

/-!
# Texts without blanks

The visible ASCII characters are no blanks (`isBlank_of_visible`), and so neither are digits and
letters.  A text without blanks is trimmed to itself, and one that begins with something else is not
trimmed to nothing.  What is left of any text is what stands between its outer blanks
(`trimBlanks_eq_iff`).
-/

namespace CloudTemplate

variable {c : Char} {text : List Char}

/-! ## Single characters -/

lemma isBlank_of_visible (h : 33 ≤ c.toNat ∧ c.toNat ≤ 126) : isBlank c = false := by
  simp only [isBlank, inRanges, blankRanges, List.any_cons, List.any_nil, Bool.or_false,
    Bool.or_eq_false_iff, Bool.and_eq_false_iff, decide_eq_false_iff_not]
  omega

lemma isBlank_of_isDigit (h : isDigit c = true) : isBlank c = false := by
  have hrange := isDigit_iff_toNat.mp h
  exact isBlank_of_visible ⟨by omega, by omega⟩

lemma isBlank_of_isLetter (h : isLetter c = true) : isBlank c = false := by
  have hrange := isLetter_iff_toNat.mp h
  exact isBlank_of_visible ⟨by omega, by omega⟩

/-! ## Trimming -/

lemma dropWhile_isBlank_cons (h : isBlank c = false) (more : List Char) :
    (c :: more).dropWhile isBlank = c :: more :=
  List.dropWhile_cons_of_neg (by simp [h])

lemma trimBlanks_of_forall (h : ∀ c ∈ text, isBlank c = false) : trimBlanks text = text := by
  have hdrop : ∀ row : List Char, (∀ c ∈ row, isBlank c = false) → row.dropWhile isBlank = row := by
    intro row hrow
    cases row with
    | nil => rfl
    | cons c more => exact dropWhile_isBlank_cons (hrow c List.mem_cons_self) more
  rw [trimBlanks, hdrop text h, hdrop text.reverse (fun c hc => h c (List.mem_reverse.mp hc)),
    List.reverse_reverse]

lemma trimBlanks_cons_ne_nil (h : isBlank c = false) (more : List Char) :
    trimBlanks (c :: more) ≠ [] := by
  rw [trimBlanks, dropWhile_isBlank_cons h, ne_eq, List.reverse_eq_nil_iff,
    List.dropWhile_eq_nil_iff]
  intro hall
  have hblank : isBlank c = true := hall c (by simp)
  rw [h] at hblank
  exact Bool.false_ne_true hblank

/-- A text stands between blanks in another one, and no blank is at its own ends. -/
structure Trims (text core : List Char) : Prop where
  outer : ∃ lead trail, text = lead ++ core ++ trail ∧ (∀ c ∈ lead, isBlank c = true) ∧
    ∀ c ∈ trail, isBlank c = true
  first : ∀ h : core ≠ [], ¬ isBlank (core.head h) = true
  last : ∀ h : core ≠ [], ¬ isBlank (core.getLast h) = true

lemma trims_trimBlanks (text : List Char) : Trims text (trimBlanks text) where
  outer := by
    refine ⟨text.takeWhile isBlank, (text.dropWhile isBlank).rtakeWhile isBlank, ?_,
      fun c hc => List.mem_takeWhile_imp hc, fun c hc => List.mem_rtakeWhile_imp hc⟩
    show text = _ ++ (text.dropWhile isBlank).rdropWhile isBlank ++ _
    rw [List.append_assoc, List.rdropWhile_append_rtakeWhile, List.takeWhile_append_dropWhile]
  first := by
    intro h
    have hfront : trimBlanks text <+: text.dropWhile isBlank := List.rdropWhile_prefix _ _
    rw [hfront.head h, List.head_dropWhile_not isBlank]
    exact Bool.false_ne_true
  last := List.rdropWhile_last_not _ _

/-- What is left of a text without its outer blanks. -/
lemma trimBlanks_eq_iff {core : List Char} : trimBlanks text = core ↔ Trims text core := by
  constructor
  · rintro rfl
    exact trims_trimBlanks text
  · rintro ⟨⟨lead, trail, rfl, hlead, htrail⟩, hfirst, hlast⟩
    show ((lead ++ core ++ trail).dropWhile isBlank).rdropWhile isBlank = core
    rw [List.append_assoc, List.dropWhile_append_of_pos hlead]
    cases core with
    | nil => rw [List.nil_append, List.dropWhile_eq_nil_iff.mpr htrail, List.rdropWhile_nil]
    | cons c more =>
      have hc : ¬ isBlank c = true := hfirst (List.cons_ne_nil c more)
      rw [List.cons_append, List.dropWhile_cons_of_neg hc, ← List.cons_append, List.rdropWhile,
        List.reverse_append, List.dropWhile_append_of_pos (by simpa using htrail)]
      exact List.rdropWhile_eq_self_iff.mpr hlast

end CloudTemplate
