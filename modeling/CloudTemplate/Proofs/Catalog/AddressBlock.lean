import CloudTemplate.Catalog.Rule
import CloudTemplate.Proofs.Text.Blank
import CloudTemplate.Proofs.Text.Split

/-!
# The language of address blocks

An address block is four numbers of one byte with dots between them, a slash, and the length of a
mask, all in ASCII digits (`AddressBlock`).  A property that must be an address block is accepted
exactly if its text is one (`violation?_cidrBlock_eq_none_iff`).

The test takes two steps that do not speak of the same digits.  The shape is tested with the digits
of every script, and the numbers are then read with ASCII digits alone, so that the first step lets
texts through which the second one refuses.  In the other direction nothing is lost: what the second
step reads has passed the first one.
-/

namespace CloudTemplate

variable {text address mask : List Char}

/-! ## The grammar -/

/-- A number in ASCII digits, at most so many, that is not greater than a limit. -/
structure NumberWithin (digits limit : Nat) (text : List Char) : Prop where
  nonempty : text ≠ []
  short : text.length ≤ digits
  ascii : ∀ c ∈ text, '0' ≤ c ∧ c ≤ '9'
  small : Nat.ofDigitChars 10 text 0 ≤ limit

/-- An address block of four numbers and the length of a mask. -/
inductive AddressBlock : List Char → Prop
  | mk {a b c d mask : List Char} : NumberWithin 3 255 a → NumberWithin 3 255 b →
      NumberWithin 3 255 c → NumberWithin 3 255 d → NumberWithin 2 32 mask →
      AddressBlock (a ++ '.' :: (b ++ '.' :: (c ++ '.' :: (d ++ '/' :: mask))))

/-! ## The shape -/

lemma isDecimalDigit_of_isDigit {c : Char} (h : isDigit c = true) : isDecimalDigit c = true := by
  rw [isDigit_iff_toNat] at h
  simp only [isDecimalDigit, inRanges, decimalDigitRanges, List.any_cons, Bool.or_eq_true,
    Bool.and_eq_true, decide_eq_true_eq]
  exact .inl h

lemma not_mem_of_isDecimalDigit {separator : Char} (hseparator : isDecimalDigit separator = false)
    (h : ∀ x ∈ text, isDecimalDigit x = true) : separator ∉ text := by
  intro hmem
  rw [h separator hmem] at hseparator
  exact Bool.noConfusion hseparator

/-- Four groups of one to three digits of some script. -/
lemma isDottedQuad_iff : isDottedQuad text = true ↔ ∃ a b c d, splitAll '.' text = [a, b, c, d] ∧
    ∀ group ∈ [a, b, c, d], group ≠ [] ∧ group.length ≤ 3 ∧
      ∀ x ∈ group, isDecimalDigit x = true := by
  simp only [isDottedQuad, Bool.and_eq_true, beq_iff_eq, List.length_eq_four, List.all_eq_true,
    decide_eq_true_eq, Nat.one_le_iff_ne_zero, ne_eq, List.length_eq_zero_iff]
  constructor
  · rintro ⟨⟨a, b, c, d, hsplit⟩, hgroups⟩
    rw [hsplit] at hgroups
    exact ⟨a, b, c, d, hsplit, fun group hgroup => and_assoc.mp (hgroups group hgroup)⟩
  · rintro ⟨a, b, c, d, hsplit, hgroups⟩
    rw [hsplit]
    exact ⟨⟨a, b, c, d, rfl⟩, fun group hgroup => and_assoc.mpr (hgroups group hgroup)⟩

lemma addressBlock?_eq_some_iff : addressBlock? text = some (address, mask) ↔
    (text = address ++ '/' :: mask ∧ '/' ∉ address) ∧ isDottedQuad address = true ∧
      mask ≠ [] ∧ mask.length ≤ 2 ∧ ∀ x ∈ mask, isDecimalDigit x = true := by
  rw [← splitAtFirst_eq_some_iff]
  unfold addressBlock?
  cases splitAtFirst '/' text with
  | none => simp
  | some cut =>
    obtain ⟨front, back⟩ := cut
    simp only [Option.ite_none_right_eq_some, Bool.and_eq_true, decide_eq_true_eq,
      List.all_eq_true, Nat.one_le_iff_ne_zero, ne_eq, List.length_eq_zero_iff, Option.some.injEq,
      Prod.mk.injEq]
    constructor
    · rintro ⟨⟨⟨⟨hquad, hnonempty⟩, hshort⟩, hdigits⟩, rfl, rfl⟩
      exact ⟨⟨rfl, rfl⟩, hquad, hnonempty, hshort, hdigits⟩
    · rintro ⟨⟨rfl, rfl⟩, hquad, hnonempty, hshort, hdigits⟩
      exact ⟨⟨⟨⟨hquad, hnonempty⟩, hshort⟩, hdigits⟩, rfl, rfl⟩

/-! ## The numbers -/

lemma digitsValue_eq_ofDigitChars (ds : List Char) :
    digitsValue ds = Nat.ofDigitChars 10 ds 0 := by
  rw [Nat.ofDigitChars_eq_foldl]
  rfl

/-- What is read as a number has a shape that passes the first step. -/
lemma numberWithin_iff {digits limit : Nat} : NumberWithin digits limit text ↔
    (text ≠ [] ∧ text.length ≤ digits ∧ ∀ x ∈ text, isDecimalDigit x = true) ∧
      isNumberUpTo limit text = true := by
  simp only [isNumberUpTo, Bool.and_eq_true, List.all_eq_true, decide_eq_true_eq,
    digitsValue_eq_ofDigitChars]
  constructor
  · intro h
    have hascii : ∀ x ∈ text, isDigit x = true := fun x hx => by
      simpa [isDigit] using h.ascii x hx
    exact ⟨⟨h.nonempty, h.short, fun x hx => isDecimalDigit_of_isDigit (hascii x hx)⟩, hascii,
      h.small⟩
  · rintro ⟨⟨hnonempty, hshort, -⟩, hascii, hsmall⟩
    exact ⟨hnonempty, hshort, fun x hx => by simpa [isDigit] using hascii x hx, hsmall⟩

lemma NumberWithin.not_mem {digits limit : Nat} {separator : Char}
    (h : NumberWithin digits limit text) (hseparator : isDecimalDigit separator = false) :
    separator ∉ text :=
  not_mem_of_isDecimalDigit hseparator (numberWithin_iff.mp h).1.2.2

/-! ## Both steps -/

lemma splitAll_eq_four_iff {separator : Char} {a b c d : List Char} :
    splitAll separator text = [a, b, c, d] ↔ (∀ part ∈ [a, b, c, d], separator ∉ part) ∧
      text = a ++ separator :: (b ++ separator :: (c ++ separator :: d)) := by
  have htext : [separator].intercalate [a, b, c, d] =
      a ++ separator :: (b ++ separator :: (c ++ separator :: d)) := by
    simp [List.intercalate]
  rw [splitAll_eq_iff, htext, eq_comm (a := text)]
  exact and_iff_right (List.cons_ne_nil _ _)

/-- A text is an address block if its part before the slash splits into four numbers. -/
lemma addressBlock_iff : AddressBlock text ↔ ∃ address mask a b c d,
    (text = address ++ '/' :: mask ∧ '/' ∉ address) ∧ splitAll '.' address = [a, b, c, d] ∧
      (∀ group ∈ [a, b, c, d], NumberWithin 3 255 group) ∧ NumberWithin 2 32 mask := by
  constructor
  · rintro (@⟨a, b, c, d, mask, ha, hb, hc, hd, hmask⟩)
    have hgroups : ∀ group ∈ [a, b, c, d], NumberWithin 3 255 group := by
      simp [ha, hb, hc, hd]
    have hslash : '/' ∉ a ++ '.' :: (b ++ '.' :: (c ++ '.' :: d)) := by
      have habsent : ∀ group ∈ [a, b, c, d], '/' ∉ group := fun group hgroup =>
        (hgroups group hgroup).not_mem rfl
      simp only [List.mem_cons, List.not_mem_nil, or_false, forall_eq_or_imp, forall_eq] at habsent
      simp [habsent]
    refine ⟨_, mask, a, b, c, d, ⟨?_, hslash⟩, splitAll_eq_four_iff.mpr
      ⟨fun group hgroup => (hgroups group hgroup).not_mem rfl, rfl⟩, hgroups, hmask⟩
    simp
  · rintro ⟨address, mask, a, b, c, d, ⟨rfl, -⟩, hsplit, hgroups, hmask⟩
    rw [(splitAll_eq_four_iff.mp hsplit).2]
    simpa only [List.append_assoc, List.cons_append] using
      AddressBlock.mk (hgroups a (by simp)) (hgroups b (by simp)) (hgroups c (by simp))
        (hgroups d (by simp)) hmask

lemma cidrBlock?_eq_none_iff {s : String} : Rule.cidrBlock? (.string s) = none ↔
    ∃ address mask, addressBlock? s.toList = some (address, mask) ∧
      (∀ group ∈ splitAll '.' address, isNumberUpTo 255 group = true) ∧
        isNumberUpTo 32 mask = true := by
  simp only [Rule.cidrBlock?, Rule.onText, PropertyValue.asText?]
  cases addressBlock? s.toList with
  | none => simp
  | some block =>
    obtain ⟨address, mask⟩ := block
    simp only [ite_eq_left_iff, reduceCtorEq, imp_false, not_not, Bool.and_eq_true,
      List.all_eq_true, Option.some.injEq, Prod.mk.injEq]
    constructor
    · rintro ⟨hnumbers, hmask⟩
      exact ⟨address, mask, ⟨rfl, rfl⟩, hnumbers, hmask⟩
    · rintro ⟨_, _, ⟨rfl, rfl⟩, hnumbers, hmask⟩
      exact ⟨hnumbers, hmask⟩

/-- A text is accepted as an address block exactly if it is one. -/
theorem violation?_cidrBlock_eq_none_iff (s : String) :
    Rule.cidrBlock.violation? (.string s) = none ↔ AddressBlock s.toList := by
  show Rule.cidrBlock? (.string s) = none ↔ _
  rw [cidrBlock?_eq_none_iff, addressBlock_iff]
  constructor
  · rintro ⟨address, mask, hblock, hnumbers, hmask⟩
    obtain ⟨htext, hshape, hmaskShape⟩ := addressBlock?_eq_some_iff.mp hblock
    obtain ⟨a, b, c, d, hsplit, hgroups⟩ := isDottedQuad_iff.mp hshape
    rw [hsplit] at hnumbers
    exact ⟨address, mask, a, b, c, d, htext, hsplit,
      fun group hgroup => numberWithin_iff.mpr ⟨hgroups group hgroup, hnumbers group hgroup⟩,
      numberWithin_iff.mpr ⟨hmaskShape, hmask⟩⟩
  · rintro ⟨address, mask, a, b, c, d, htext, hsplit, hgroups, hmask⟩
    have hread := fun group hgroup => numberWithin_iff.mp (hgroups group hgroup)
    refine ⟨address, mask, addressBlock?_eq_some_iff.mpr ⟨htext, isDottedQuad_iff.mpr
      ⟨a, b, c, d, hsplit, fun group hgroup => (hread group hgroup).1⟩,
      (numberWithin_iff.mp hmask).1⟩, ?_, (numberWithin_iff.mp hmask).2⟩
    rw [hsplit]
    exact fun group hgroup => (hread group hgroup).2

/-! Zeros may stand before a number.  Digits of another script pass the shape only. -/

example : Rule.cidrBlock.violation? (.string "010.000.00.0/08") = none := by decide +kernel

example : Rule.cidrBlock.violation? (.string "10.0.0.٠/8") =
    some (.addressBlockOutOfRange "10.0.0.٠/8") := by decide +kernel

end CloudTemplate
