import CloudTemplate.Proofs.Number.Whole
import CloudTemplate.Proofs.Text.Blank
import CloudTemplate.Value.Basic

/-!
# Numbers written as texts

The decimal digits of a natural number, read as a double, give the double of the number
(`asDouble?_string_toString`): they have no blanks to be dropped, no sign, no point and no exponent.
-/

namespace CloudTemplate

/-! ## Digits -/

lemma isDigit_of_mem_toDigits {n : Nat} {c : Char} (h : c ∈ Nat.toDigits 10 n) :
    isDigit c = true := by
  rw [isDigit_eq]
  exact Nat.isDigit_of_mem_toDigits (by omega) (by omega) h

lemma digitsValue_toDigits (n : Nat) : digitsValue (Nat.toDigits 10 n) = n := by
  have hread : Nat.ofDigitChars 10 (Nat.toDigits 10 n) 0 = n := Nat.ofDigitChars_ten_toDigits
  rwa [Nat.ofDigitChars_eq_foldl] at hread

lemma digitsValue_concat (ds : List Char) (d : Char) :
    digitsValue (ds ++ [d]) = 10 * digitsValue ds + (d.toNat - 48) := by
  rw [digitsValue, List.foldl_append]
  rfl

lemma digitsValue_append (ds more : List Char) :
    digitsValue (ds ++ more) = digitsValue ds * 10 ^ more.length + digitsValue more := by
  induction more using List.reverseRecOn with
  | nil => simp [digitsValue]
  | append_singleton more d ih =>
    rw [← List.append_assoc, digitsValue_concat, ih, digitsValue_concat, List.length_append,
      List.length_singleton, Nat.pow_succ]
    ring

lemma digitsValue_replicate_zero (k : Nat) : digitsValue (List.replicate k '0') = 0 := by
  induction k with
  | zero => rfl
  | succ k ih =>
    rw [List.replicate_succ', digitsValue_concat, ih]
    rfl

/-- No zero stands in front of the digits of a natural number. -/
lemma head?_toDigits_ne {n : Nat} (h : n ≠ 0) : (Nat.toDigits 10 n).head? ≠ some '0' := by
  induction n using Nat.strongRecOn with
  | ind n ih =>
    by_cases hsmall : n < 10
    · rw [Nat.toDigits_of_lt_base hsmall]
      have hdigit : ∀ m, m < 10 → m ≠ 0 → m.digitChar ≠ '0' := by decide
      simpa using hdigit n hsmall h
    · have hfewer : (Nat.toDigits 10 (n / 10)).head? ≠ some '0' := ih (n / 10) (by omega) (by omega)
      rw [Nat.toDigits_of_base_le (by omega) (by omega), List.head?_append_of_ne_nil _
        Nat.toDigits_ne_nil]
      exact hfewer

/-! ## Rows of digits -/

variable {ds : List Char}

lemma takeSign_of_isDigit (h : ∀ c ∈ ds, isDigit c = true) : takeSign ds = (false, ds) := by
  unfold takeSign
  split
  · exact absurd (h '-' List.mem_cons_self) (by decide)
  · exact absurd (h '+' List.mem_cons_self) (by decide)
  · rfl

lemma Decimal.ofText?_of_isDigit (hne : ds ≠ []) (h : ∀ c ∈ ds, isDigit c = true) :
    Decimal.ofText? ds = some ⟨digitsValue ds, 0⟩ := by
  have htake : ds.takeWhile isDigit = ds := List.takeWhile_eq_self_iff.mpr h
  have hdrop : ds.dropWhile isDigit = [] := List.dropWhile_eq_nil_iff.mpr h
  simp [Decimal.ofText?, htake, hdrop, exponentOfText?, hne]

lemma Decimal.toMagnitude?_natural (n : Nat) :
    Decimal.toMagnitude? ⟨n, 0⟩ = Magnitude.ofRatio? n 1 := by
  unfold Decimal.toMagnitude?
  split
  · next hzero =>
    obtain rfl : n = 0 := hzero
    rw [Magnitude.ofRatio?_one (Nat.two_pow_pos 53)]
    simp [Magnitude.zero]
  · have hlarge : ¬ (309 : Int) < 0 := by omega
    have hsmall : ¬ (0 : Int) < -((n.log2 : Int) + 1) - 400 := by omega
    rw [if_neg hlarge, if_neg hsmall]
    simp

/-- The digits of a natural number are read as its double. -/
lemma Binary64.ofText?_toDigits (n : Nat) :
    Binary64.ofText? (Nat.toDigits 10 n) = some (Binary64.ofInt n) := by
  have hdigits : ∀ c ∈ Nat.toDigits 10 n, isDigit c = true := fun _ => isDigit_of_mem_toDigits
  simp only [Binary64.ofText?, takeSign_of_isDigit hdigits,
    Decimal.ofText?_of_isDigit Nat.toDigits_ne_nil hdigits, digitsValue_toDigits,
    Decimal.toMagnitude?_natural]
  have hnonnegative : ¬ (n : Int) < 0 := by omega
  simp [Binary64.ofInt, hnonnegative]

lemma asDouble?_string_toString (n : Nat) :
    (PropertyValue.string (toString n)).asDouble? = some (Binary64.ofInt n) := by
  have hblank : ∀ c ∈ Nat.toDigits 10 n, isBlank c = false := fun c hc =>
    isBlank_of_isDigit (isDigit_of_mem_toDigits hc)
  rw [PropertyValue.asDouble?, Nat.toString_eq_repr, Nat.toList_repr, trimBlanks_of_forall hblank,
    Binary64.ofText?_toDigits]

end CloudTemplate
