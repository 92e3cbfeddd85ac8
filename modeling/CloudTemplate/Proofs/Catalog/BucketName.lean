import CloudTemplate.Proofs.Catalog.AddressBlock

/-!
# The language of bucket names

The name of a bucket has 3 to 63 small letters, digits, dots and hyphens.  It begins and ends with a
letter or digit, no two of its dots stand side by side, it is not spelled as an address, and it has
neither of the two affixes that are set aside (`BucketName`).  A property that must be the name of a
bucket is accepted exactly if its text is one (`violation?_bucketName_eq_none_iff`).

Two steps of the test speak of more than these characters: the limits are on the bytes of a text,
and the spelling of an address may have the digits of every script.  A text that has passed the step
for the characters is ASCII, though, and of such a text both steps say what they should.
-/

namespace CloudTemplate

variable {c : Char} {text : List Char}

/-! ## The grammar -/

/-- A character with which a name may begin and end. -/
def SmallLetterOrDigit (c : Char) : Prop := ('a' ≤ c ∧ c ≤ 'z') ∨ ('0' ≤ c ∧ c ≤ '9')

/-- Some ASCII digits, at most so many. -/
structure DigitsWithin (digits : Nat) (text : List Char) : Prop where
  nonempty : text ≠ []
  short : text.length ≤ digits
  ascii : ∀ c ∈ text, '0' ≤ c ∧ c ≤ '9'

/-- Four groups of one to three digits with dots between them. -/
inductive SpelledAsAddress : List Char → Prop
  | mk {a b c d : List Char} : DigitsWithin 3 a → DigitsWithin 3 b → DigitsWithin 3 c →
      DigitsWithin 3 d → SpelledAsAddress (a ++ '.' :: (b ++ '.' :: (c ++ '.' :: d)))

/-- The name of a bucket. -/
structure BucketName (text : List Char) : Prop where
  long : 3 ≤ text.length
  short : text.length ≤ 63
  characters : ∀ c ∈ text, SmallLetterOrDigit c ∨ c = '.' ∨ c = '-'
  first : ∀ c ∈ text.head?, SmallLetterOrDigit c
  last : ∀ c ∈ text.getLast?, SmallLetterOrDigit c
  dotsApart : ¬ ['.', '.'] <:+: text
  noAddress : ¬ SpelledAsAddress text
  ownBeginning : ¬ "xn--".toList <+: text
  ownEnd : ¬ "-s3alias".toList <:+ text

/-! ## The characters -/

lemma isNameEnd_iff : isNameEnd c = true ↔ SmallLetterOrDigit c := by
  simp [isNameEnd, isSmallLetter, isDigit, SmallLetterOrDigit]

lemma isBucketShape_iff : isBucketShape text = true ↔ 2 ≤ text.length ∧
    (∀ c ∈ text, SmallLetterOrDigit c ∨ c = '.' ∨ c = '-') ∧
      (∀ c ∈ text.head?, SmallLetterOrDigit c) ∧ ∀ c ∈ text.getLast?, SmallLetterOrDigit c := by
  match text with
  | [] => simp [isBucketShape]
  | [_] => simp [isBucketShape]
  | first :: second :: more =>
    have hlast := List.getLast?_eq_some_getLast (List.cons_ne_nil second more)
    rw [isBucketShape, List.getLast?_cons_cons, hlast]
    simp only [Bool.and_eq_true, List.all_eq_true, Bool.or_eq_true, beq_iff_eq, isNameEnd_iff,
      or_assoc, List.length_cons, List.head?_cons, Option.mem_some_iff, forall_eq']
    constructor
    · rintro ⟨⟨hfirst, hmore⟩, hend⟩
      exact ⟨by omega, List.forall_mem_cons.mpr ⟨.inl hfirst, hmore⟩, hfirst, hend⟩
    · rintro ⟨-, hall, hfirst, hend⟩
      exact ⟨⟨hfirst, (List.forall_mem_cons.mp hall).2⟩, hend⟩

lemma toNat_lt_of_nameCharacter (h : SmallLetterOrDigit c ∨ c = '.' ∨ c = '-') :
    c.toNat < 128 := by
  rcases h with hend | rfl | rfl
  · rw [← isNameEnd_iff, isNameEnd, Bool.or_eq_true, isSmallLetter_iff_toNat,
      isDigit_iff_toNat] at hend
    omega
  · decide
  · decide

/-! ## Dots and digits -/

lemma hasAdjacentDots_iff : hasAdjacentDots text = true ↔ ['.', '.'] <:+: text := by
  fun_induction hasAdjacentDots text with
  | case1 rest => exact iff_of_true rfl ⟨[], rest, rfl⟩
  | case2 c rest hother ih =>
    rw [ih, List.infix_cons_iff]
    refine ⟨.inr, fun h => h.resolve_left ?_⟩
    rintro ⟨tail, heq⟩
    obtain ⟨rfl, hrest⟩ := List.cons.inj heq
    exact hother tail rfl hrest.symm
  | case3 => simp

/-- The ASCII digits come first among the digits of all scripts, and no other ones are ASCII. -/
lemma isDigit_iff_isDecimalDigit :
    isDigit c = true ↔ isDecimalDigit c = true ∧ c.toNat < 128 := by
  have hranges : ∀ range ∈ decimalDigitRanges, range = (48, 57) ∨ 128 ≤ range.1 := by decide
  constructor
  · intro h
    have hwithin := isDigit_iff_toNat.mp h
    exact ⟨isDecimalDigit_of_isDigit h, by omega⟩
  · rintro ⟨h, hascii⟩
    obtain ⟨range, hrange, hwithin⟩ := List.any_eq_true.mp h
    simp only [Bool.and_eq_true, decide_eq_true_eq] at hwithin
    rcases hranges range hrange with rfl | hbeyond
    · exact isDigit_iff_toNat.mpr hwithin
    · omega

lemma digitsWithin_iff {digits : Nat} : DigitsWithin digits text ↔
    (text ≠ [] ∧ text.length ≤ digits ∧ ∀ c ∈ text, isDecimalDigit c = true) ∧
      ∀ c ∈ text, c.toNat < 128 := by
  have hdigit : ∀ c, ('0' ≤ c ∧ c ≤ '9') ↔ isDecimalDigit c = true ∧ c.toNat < 128 := by
    intro c
    rw [← isDigit_iff_isDecimalDigit, isDigit, Bool.and_eq_true, decide_eq_true_eq,
      decide_eq_true_eq]
  constructor
  · rintro ⟨hsome, hshort, hdigits⟩
    exact ⟨⟨hsome, hshort, fun c hc => ((hdigit c).mp (hdigits c hc)).1⟩,
      fun c hc => ((hdigit c).mp (hdigits c hc)).2⟩
  · rintro ⟨⟨hsome, hshort, hdigits⟩, hascii⟩
    exact ⟨hsome, hshort, fun c hc => (hdigit c).mpr ⟨hdigits c hc, hascii c hc⟩⟩

lemma isDottedQuad_iff_spelledAsAddress (hascii : ∀ c ∈ text, c.toNat < 128) :
    isDottedQuad text = true ↔ SpelledAsAddress text := by
  rw [isDottedQuad_iff]
  constructor
  · rintro ⟨a, b, c, d, hsplit, hgroups⟩
    obtain ⟨-, rfl⟩ := splitAll_eq_four_iff.mp hsplit
    have hdigits : ∀ group ∈ [a, b, c, d], DigitsWithin 3 group := by
      intro group hgroup
      refine digitsWithin_iff.mpr ⟨hgroups group hgroup, fun x hx => hascii x ?_⟩
      simp only [List.mem_cons, List.not_mem_nil, or_false] at hgroup
      rcases hgroup with rfl | rfl | rfl | rfl <;> simp [hx]
    exact .mk (hdigits a (by simp)) (hdigits b (by simp)) (hdigits c (by simp))
      (hdigits d (by simp))
  · rintro (@⟨a, b, c, d, ha, hb, hc, hd⟩)
    have hdigits : ∀ group ∈ [a, b, c, d], DigitsWithin 3 group := by simp [ha, hb, hc, hd]
    have hgroups := fun group hgroup => (digitsWithin_iff.mp (hdigits group hgroup)).1
    exact ⟨a, b, c, d, splitAll_eq_four_iff.mpr
      ⟨fun group hgroup => not_mem_of_isDecimalDigit rfl (hgroups group hgroup).2.2, rfl⟩, hgroups⟩

/-! ## The whole test -/

lemma bucketName?_eq_none_iff {s : String} : Rule.bucketName? (.string s) = none ↔
    3 ≤ s.utf8ByteSize ∧ s.utf8ByteSize ≤ 63 ∧ isBucketShape s.toList = true ∧
      ¬ hasAdjacentDots s.toList = true ∧ ¬ isDottedQuad s.toList = true ∧
        ¬ "xn--".toList <+: s.toList ∧ ¬ "-s3alias".toList <:+ s.toList := by
  simp only [Rule.bucketName?, Rule.onText, PropertyValue.asText?, beginsWith, endsWith,
    ite_eq_iff, reduceCtorEq, and_false, false_or, and_true, Bool.or_eq_true, not_or,
    decide_eq_true_eq, Nat.not_lt, Bool.not_eq_true', Bool.not_eq_false,
    List.isPrefixOf_iff_prefix, List.isSuffixOf_iff_suffix, and_assoc]

/-- A text is accepted as the name of a bucket exactly if it is one. -/
theorem violation?_bucketName_eq_none_iff (s : String) :
    Rule.bucketName.violation? (.string s) = none ↔ BucketName s.toList := by
  show Rule.bucketName? (.string s) = none ↔ _
  rw [bucketName?_eq_none_iff, isBucketShape_iff, hasAdjacentDots_iff]
  constructor
  · rintro ⟨hlong, hshort, ⟨-, hcharacters, hfirst, hlast⟩, hdots, hquad, hbeginning, hend⟩
    have hascii : ∀ c ∈ s.toList, c.toNat < 128 := fun c hc =>
      toNat_lt_of_nameCharacter (hcharacters c hc)
    rw [utf8ByteSize_eq_length_of_ascii hascii, ← String.length_toList] at hlong hshort
    rw [isDottedQuad_iff_spelledAsAddress hascii] at hquad
    exact ⟨hlong, hshort, hcharacters, hfirst, hlast, hdots, hquad, hbeginning, hend⟩
  · intro h
    have hascii : ∀ c ∈ s.toList, c.toNat < 128 := fun c hc =>
      toNat_lt_of_nameCharacter (h.characters c hc)
    rw [utf8ByteSize_eq_length_of_ascii hascii, ← String.length_toList,
      isDottedQuad_iff_spelledAsAddress hascii]
    exact ⟨h.long, h.short, ⟨(Nat.le_succ 2).trans h.long, h.characters, h.first, h.last⟩,
      h.dotsApart, h.noAddress, h.ownBeginning, h.ownEnd⟩

/-! Digits and dots alone may make a name, unless they are spelled as an address. -/

example : Rule.bucketName.violation? (.string "1.22.333.4444") = none := by decide +kernel

example : Rule.bucketName.violation? (.string "1.22.333.444") = some .bucketNameAddress := by
  decide +kernel

end CloudTemplate
