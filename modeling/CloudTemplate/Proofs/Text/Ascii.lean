import CloudTemplate.Text.Ascii
import Mathlib.Data.String.Basic

/-!
# ASCII characters and their bytes

The classes of ASCII characters are ranges of numbers.  An ASCII character takes a single byte, so
that a text of them has as many bytes as characters (`utf8ByteSize_eq_length_of_ascii`), and a limit
on the bytes of a text is then a limit on its characters.
-/

namespace CloudTemplate

variable {c : Char}

lemma isDigit_eq (c : Char) : isDigit c = c.isDigit := by
  simp only [isDigit, Char.isDigit, Char.le_def, ge_iff_le]

lemma isDigit_iff_toNat : isDigit c = true ↔ 48 ≤ c.toNat ∧ c.toNat ≤ 57 := by
  rw [isDigit_eq, Char.isDigit_iff_toNat]
  rfl

lemma isSmallLetter_iff_toNat : isSmallLetter c = true ↔ 97 ≤ c.toNat ∧ c.toNat ≤ 122 := by
  simp only [isSmallLetter, Bool.and_eq_true, decide_eq_true_eq, Char.le_def,
    UInt32.le_iff_toNat_le]
  rfl

lemma isLetter_iff_toNat : isLetter c = true ↔
    97 ≤ c.toNat ∧ c.toNat ≤ 122 ∨ 65 ≤ c.toNat ∧ c.toNat ≤ 90 := by
  rw [isLetter, Bool.or_eq_true, isSmallLetter_iff_toNat, Bool.and_eq_true, decide_eq_true_eq,
    decide_eq_true_eq, Char.le_def, Char.le_def, UInt32.le_iff_toNat_le, UInt32.le_iff_toNat_le]
  rfl

/-! ## Bytes -/

lemma utf8Size_eq_one_of_ascii (h : c.toNat < 128) : c.utf8Size = 1 := by
  rw [Char.utf8Size_eq_one_iff, UInt32.le_iff_toNat_le]
  exact Nat.le_of_lt_succ h

lemma utf8Len_eq_length {cs : List Char} (h : ∀ c ∈ cs, c.toNat < 128) :
    String.utf8Len cs = cs.length := by
  induction cs with
  | nil => rfl
  | cons c cs ih =>
    obtain ⟨hc, hcs⟩ := List.forall_mem_cons.mp h
    rw [String.utf8Len_cons, ih hcs, utf8Size_eq_one_of_ascii hc, List.length_cons]

lemma utf8ByteSize_eq_length_of_ascii {s : String} (h : ∀ c ∈ s.toList, c.toNat < 128) :
    s.utf8ByteSize = s.length := by
  rw [← String.utf8Len_toList, utf8Len_eq_length h, String.length_toList]

end CloudTemplate
