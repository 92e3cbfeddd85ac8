import CloudTemplate.Json.Token
import CloudTemplate.Proofs.Number.Decimal
import CloudTemplate.Proofs.Number.Numeral

/-!
# Number literals

A literal without its sign has digits before the point, digits behind it if there is a point, and
the digits of an exponent if there is one (`Literal`).  Whatever follows a literal, unless it goes
on with it (`EndsNumber`), the literal is read to its end and no further; what it amounts to is its
decimal, rounded (`Literal.scanUnsigned_real`), or a whole number if there are only digits
(`scanUnsigned_whole`).

The text of every number is such a literal with a sign or none.  A double is written as a literal
that has the value of its shortest decimal, positionally or with an exponent
(`Layout.exists_writeDecimal`), and so it is read back (`Number.scanNumber_text`).
-/

namespace CloudTemplate

/-- A text that does not go on with a number. -/
def EndsNumber (rest : List Char) : Prop :=
  ∀ c ∈ rest.head?, isDigit c = false ∧ c ≠ '.' ∧ c ≠ 'e' ∧ c ≠ 'E'

/-- A row of digits, at least one. -/
structure IsDigits (ds : List Char) : Prop where
  ne_nil : ds ≠ []
  digits : ∀ c ∈ ds, isDigit c = true

/-- A text that does not go on with a row of digits. -/
def EndsDigits (rest : List Char) : Prop := ∀ c ∈ rest.head?, isDigit c = false

lemma EndsNumber.endsDigits {rest : List Char} (h : EndsNumber rest) : EndsDigits rest :=
  fun c hc => (h c hc).1

variable {ds rest : List Char}

lemma takeDigits_append (h : IsDigits ds) (hrest : EndsDigits rest) (offset : Nat) :
    takeDigits offset (ds ++ rest) = .ok (ds, rest) := by
  have htake : rest.takeWhile isDigit = [] ∧ rest.dropWhile isDigit = rest := by
    cases rest with
    | nil => exact ⟨rfl, rfl⟩
    | cons c more =>
      have hc : isDigit c = false := hrest c rfl
      simp [hc]
  obtain ⟨d, more, rfl⟩ := List.exists_cons_of_ne_nil h.ne_nil
  unfold takeDigits
  rw [List.takeWhile_append_of_pos h.digits, List.dropWhile_append_of_pos h.digits, htake.1,
    htake.2, List.append_nil]

/-- A row of digits without a zero in front of others. -/
def NoLeadingZero (ds : List Char) : Prop := ds.head? = some '0' → ds = ['0']

lemma takeWhole_append (h : IsDigits ds) (hzero : NoLeadingZero ds) (hrest : EndsDigits rest)
    (offset : Nat) : takeWhole offset (ds ++ rest) = .ok (ds, rest) := by
  unfold takeWhole
  rw [takeDigits_append h hrest]
  split
  · next d more tail heq =>
    obtain ⟨rfl, -⟩ : ds = '0' :: d :: more ∧ rest = tail := by simpa using heq
    exact absurd (hzero rfl) (by simp)
  · rfl

/-! ## Literals -/

/-- The parts of a literal without its sign. -/
structure Literal where
  /-- The digits before the point. -/
  whole : List Char
  /-- The digits behind the point, if there is one. -/
  fraction : Option (List Char)
  /-- Whether the exponent is negative, and its digits, if there is one. -/
  exponent : Option (Bool × List Char)

namespace Literal

/-- The text of the part behind the point. -/
def fractionText (l : Literal) : List Char :=
  match l.fraction with
  | some ds => '.' :: ds
  | none => []

/-- The text of the exponent. -/
def exponentText (l : Literal) : List Char :=
  match l.exponent with
  | some (negative, ds) => 'e' :: (if negative then '-' else '+') :: ds
  | none => []

/-- The text of a literal. -/
def text (l : Literal) : List Char := l.whole ++ (l.fractionText ++ l.exponentText)

/-- The power of ten in the exponent. -/
def power (l : Literal) : Int :=
  match l.exponent with
  | some (negative, ds) => if negative then -(digitsValue ds : Int) else digitsValue ds
  | none => 0

/-- The decimal that a literal stands for. -/
def decimal (l : Literal) : Decimal :=
  ⟨digitsValue (l.whole ++ l.fraction.getD []), l.power - (l.fraction.getD []).length⟩

/-- All parts are rows of digits, and no zero stands in front. -/
structure WellFormed (l : Literal) : Prop where
  whole : IsDigits l.whole
  noLeadingZero : NoLeadingZero l.whole
  fraction : ∀ ds, l.fraction = some ds → IsDigits ds
  exponent : ∀ negative ds, l.exponent = some (negative, ds) → IsDigits ds

variable {l : Literal}

lemma takeExponent_append (h : l.WellFormed) (hrest : EndsNumber rest) (offset : Nat) :
    ∃ e, takeExponent offset (l.exponentText ++ rest) = .ok (e, rest) ∧
      (e.map ExponentPart.value).getD 0 = l.power ∧ e.isSome = l.exponent.isSome := by
  cases hexponent : l.exponent with
  | none =>
    have htext : l.exponentText = [] := by rw [exponentText, hexponent]
    have hpower : l.power = 0 := by rw [power, hexponent]
    refine ⟨none, ?_, hpower.symm, rfl⟩
    rw [htext, List.nil_append]
    cases rest with
    | nil => rfl
    | cons c more =>
      obtain ⟨-, -, hsmall, hlarge⟩ := hrest c rfl
      simp [takeExponent, hsmall, hlarge]
  | some part =>
    obtain ⟨negative, ds⟩ := part
    have hds := h.exponent negative ds hexponent
    have htext : l.exponentText = 'e' :: (if negative then '-' else '+') :: ds := by
      rw [exponentText, hexponent]
    have hpower : l.power = if negative then -(digitsValue ds : Int) else digitsValue ds := by
      rw [power, hexponent]
    have hsign : ∀ more, takeSign ((if negative then '-' else '+') :: more) = (negative, more) := by
      intro more
      cases negative <;> rfl
    rw [htext, hpower, List.cons_append, List.cons_append, takeExponent]
    simp only [hsign, takeDigits_append hds hrest.endsDigits]
    exact ⟨some ⟨negative, ds, _⟩, rfl, rfl, rfl⟩

lemma takeFraction_append (h : l.WellFormed) {after : List Char} (hafter : EndsDigits after)
    (hpoint : after.head? ≠ some '.') (offset : Nat) :
    takeFraction offset (l.fractionText ++ after) = .ok (l.fraction, after) := by
  cases hfraction : l.fraction with
  | none =>
    have htext : l.fractionText = [] := by rw [fractionText, hfraction]
    rw [htext, List.nil_append]
    unfold takeFraction
    split
    · exact absurd rfl hpoint
    · rfl
  | some ds =>
    have htext : l.fractionText = '.' :: ds := by rw [fractionText, hfraction]
    rw [htext, List.cons_append, takeFraction, takeDigits_append (h.fraction ds hfraction) hafter]
    rfl

/-- A literal is read to its end and no further. -/
lemma scanUnsigned_append (h : l.WellFormed) (hrest : EndsNumber rest) (negative : Bool)
    (offset : Nat) : ∃ e stop, scanUnsigned negative offset (l.text ++ rest) =
      .ok (numberOfParts negative l.whole l.fraction e stop, stop, rest) ∧
        (e.map ExponentPart.value).getD 0 = l.power ∧ e.isSome = l.exponent.isSome := by
  -- Each part ends where the next one begins: a point and an `e` are no digits.
  have hexponent : EndsDigits (l.exponentText ++ rest) ∧
      (l.exponentText ++ rest).head? ≠ some '.' := by
    unfold exponentText
    cases l.exponent with
    | none => exact ⟨hrest.endsDigits, fun hhead => (hrest '.' hhead).2.1 rfl⟩
    | some part => exact ⟨fun c hc => by cases hc; rfl, by simp⟩
  have hfraction : EndsDigits (l.fractionText ++ (l.exponentText ++ rest)) := by
    unfold fractionText
    cases l.fraction with
    | none => exact hexponent.1
    | some ds => exact fun c hc => by cases hc; rfl
  obtain ⟨e, he, hpower, hsome⟩ := takeExponent_append h hrest
    (offset + l.whole.length + (l.fraction.map fun ds => ds.length + 1).getD 0)
  rw [text, List.append_assoc, List.append_assoc, scanUnsigned,
    takeWhole_append h.whole h.noLeadingZero hfraction]
  simp only [takeFraction_append h hexponent.1 hexponent.2, he]
  exact ⟨e, _, rfl, hpower, hsome⟩

/-- A literal with a point or an exponent is the double nearest to its decimal. -/
lemma scanUnsigned_real (h : l.WellFormed) (hrest : EndsNumber rest)
    (hmark : l.fraction.isSome ∨ l.exponent.isSome) {m : Magnitude}
    (hm : l.decimal.toMagnitude? = some m) (negative : Bool) (offset : Nat) :
    ∃ stop, scanUnsigned negative offset (l.text ++ rest) =
      .ok (.ok (.real ⟨negative, m⟩), stop, rest) := by
  obtain ⟨e, stop, hscan, hpower, hsome⟩ := scanUnsigned_append h hrest negative offset
  have hreal : ¬ (l.fraction.isNone ∧ e.isNone) := by
    rintro ⟨hfraction, he⟩
    rw [Option.isNone_iff_eq_none] at hfraction he
    rw [hfraction, ← hsome, he] at hmark
    simp at hmark
  have hnumber : numberOfParts negative l.whole l.fraction e stop = .ok (.real ⟨negative, m⟩) := by
    unfold numberOfParts
    rw [dif_neg fun hwhole => hreal ⟨hwhole.1.1, hwhole.1.2.1⟩, realNumber]
    simp only [hpower]
    rw [decimal] at hm
    rw [hm]
  exact ⟨stop, by rw [hscan, hnumber]⟩

end Literal

/-- A row of digits that fits 64 bits is a whole number. -/
lemma scanUnsigned_whole (h : IsDigits ds) (hzero : NoLeadingZero ds) (hrest : EndsNumber rest)
    {negative : Bool} {n : Int}
    (hn : n = if negative then -(digitsValue ds : Int) else digitsValue ds)
    (hsign : n ≠ 0 ∨ ¬ negative) (hfits : leastInt64 ≤ n ∧ n ≤ greatestNat64) (offset : Nat) :
    ∃ stop, scanUnsigned negative offset (ds ++ rest) = .ok (.ok (.whole n hfits), stop, rest) := by
  have hformed : Literal.WellFormed ⟨ds, none, none⟩ := ⟨h, hzero, nofun, nofun⟩
  obtain ⟨e, stop, hscan, -, hsome⟩ := Literal.scanUnsigned_append hformed hrest negative offset
  obtain rfl : e = none := by
    cases e with
    | none => rfl
    | some e => exact absurd hsome nofun
  have htext : Literal.text ⟨ds, none, none⟩ = ds := List.append_nil ds
  rw [htext] at hscan
  refine ⟨stop, hscan.trans ?_⟩
  subst hn
  unfold numberOfParts
  rw [dif_pos ⟨⟨rfl, rfl, hsign⟩, hfits⟩]

/-! ## Written numbers -/

lemma isDigits_digits (n : Nat) : IsDigits (Layout.digits n) :=
  ⟨Nat.toDigits_ne_nil, fun _ => isDigit_of_mem_toDigits⟩

lemma isDigits_zero : IsDigits ['0'] := ⟨by simp, List.forall_mem_singleton.mpr rfl⟩

lemma noLeadingZero_digits (n : Nat) : NoLeadingZero (Layout.digits n) := by
  intro hhead
  rcases eq_or_ne n 0 with rfl | hne
  · rfl
  · exact absurd hhead (head?_toDigits_ne hne)

lemma IsDigits.append (h : IsDigits ds) {more : List Char} (hmore : ∀ c ∈ more, isDigit c = true) :
    IsDigits (ds ++ more) :=
  ⟨List.append_ne_nil_of_left_ne_nil h.ne_nil _, List.forall_mem_append.mpr ⟨h.digits, hmore⟩⟩

lemma isDigit_of_mem_replicate {k : Nat} {c : Char} (h : c ∈ List.replicate k '0') :
    isDigit c = true := by
  rw [List.eq_of_mem_replicate h]
  rfl

namespace Layout

/-- A written decimal is a literal with a point or an exponent, of the same value. -/
structure Spells (l : Literal) (d : Decimal) : Prop where
  wellFormed : l.WellFormed
  mark : l.fraction.isSome ∨ l.exponent.isSome
  value : l.decimal.toMagnitude? = d.toMagnitude?

lemma digitsValue_digits (n : Nat) : digitsValue (digits n) = n := digitsValue_toDigits n

lemma length_digits_pos (n : Nat) : 0 < (digits n).length := Nat.length_toDigits_pos

/-- A decimal below one: a zero stands before the point, and more behind it. -/
lemma spells_below_one {d : Decimal} {k : Nat}
    (hk : d.exponent = -((k + (digits d.digits).length : Nat))) :
    Spells ⟨['0'], some (List.replicate k '0' ++ digits d.digits), none⟩ d := by
  have hdigits := isDigits_digits d.digits
  refine ⟨⟨isDigits_zero, fun _ => rfl, ?_, nofun⟩, .inl rfl, ?_⟩
  · rintro _ ⟨⟩
    exact ⟨List.append_ne_nil_of_right_ne_nil _ hdigits.ne_nil,
      List.forall_mem_append.mpr ⟨fun c => isDigit_of_mem_replicate, hdigits.digits⟩⟩
  · have hvalue : digitsValue (['0'] ++ (List.replicate k '0' ++ digits d.digits)) = d.digits := by
      rw [digitsValue_append, digitsValue_append, digitsValue_replicate_zero, digitsValue_digits]
      simp [digitsValue]
    have hdecimal : Literal.decimal
        ⟨['0'], some (List.replicate k '0' ++ digits d.digits), none⟩ = d := by
      simp only [Literal.decimal, Literal.power, Option.getD_some, hvalue, List.length_append,
        List.length_replicate, Int.zero_sub, ← hk]
    rw [hdecimal]

/-- A whole number: zeros fill up the digits, and one stands behind the point. -/
lemma spells_whole {d : Decimal} {k : Nat} (hk : d.exponent = k)
    (hzero : d.digits = 0 → d.exponent = 0) :
    Spells ⟨digits d.digits ++ List.replicate k '0', some ['0'], none⟩ d := by
  have hdigits := isDigits_digits d.digits
  refine ⟨⟨hdigits.append fun c => isDigit_of_mem_replicate, ?_, ?_, nofun⟩, .inl rfl, ?_⟩
  · intro hhead
    rw [List.head?_append_of_ne_nil _ hdigits.ne_nil] at hhead
    rcases eq_or_ne d.digits 0 with hnil | hne
    · obtain rfl : k = 0 := by
        have := hzero hnil
        omega
      rw [hnil]
      rfl
    · exact absurd hhead (head?_toDigits_ne hne)
  · rintro _ ⟨⟩
    exact isDigits_zero
  · have hvalue : digitsValue (digits d.digits ++ List.replicate k '0' ++ ['0']) =
        d.digits * 10 ^ (k + 1) := by
      have hlast : '0'.toNat - 48 = 0 := rfl
      rw [digitsValue_concat, digitsValue_append, digitsValue_replicate_zero, digitsValue_digits,
        List.length_replicate, hlast]
      ring
    simp only [Literal.decimal, Literal.power, Option.getD_some, hvalue, List.length_singleton]
    -- The zeros go back into the exponent, the one behind the point included.
    rw [Decimal.toMagnitude?_shift]
    congr 2
    omega

/-- A number with digits before the point and behind it. -/
lemma spells_split {d : Decimal} {k : Nat} (hpos : 0 < k)
    (hk : d.exponent + (digits d.digits).length = k) (hlt : k < (digits d.digits).length) :
    Spells ⟨(digits d.digits).take k, some ((digits d.digits).drop k), none⟩ d := by
  have hdigits := isDigits_digits d.digits
  have hne : d.digits ≠ 0 := by
    intro hzero
    rw [hzero] at hlt
    have hlength : (digits 0).length = 1 := rfl
    omega
  refine ⟨⟨⟨?_, fun c hc => hdigits.digits c (List.mem_of_mem_take hc)⟩, ?_, ?_, nofun⟩,
    .inl rfl, ?_⟩
  · rw [ne_eq, List.take_eq_nil_iff, not_or]
    exact ⟨by omega, hdigits.ne_nil⟩
  · intro hhead
    rw [List.head?_take, if_neg (by omega)] at hhead
    exact absurd hhead (head?_toDigits_ne hne)
  · rintro _ ⟨⟩
    refine ⟨?_, fun c hc => hdigits.digits c (List.mem_of_mem_drop hc)⟩
    rw [ne_eq, List.drop_eq_nil_iff]
    omega
  · have hdecimal : Literal.decimal
        ⟨(digits d.digits).take k, some ((digits d.digits).drop k), none⟩ = d := by
      obtain ⟨n, exponent⟩ := d
      simp only [Literal.decimal, Literal.power, Option.getD_some, List.take_append_drop,
        digitsValue_digits, List.length_drop, Decimal.mk.injEq, true_and]
      dsimp only at hk hlt
      omega
    rw [hdecimal]

lemma exists_writePositional {d : Decimal} (hzero : d.digits = 0 → d.exponent = 0) :
    ∃ l, Spells l d ∧ json.writePositional (digits d.digits)
      (d.exponent + (digits d.digits).length - 1) = l.text := by
  have hlength := length_digits_pos d.digits
  unfold writePositional
  split
  · next hbelow =>
    refine ⟨_, spells_below_one (k := (-d.exponent - (digits d.digits).length).toNat) ?_, ?_⟩
    · omega
    · simp only [Literal.text, Literal.fractionText, Literal.exponentText, List.append_nil,
        List.singleton_append]
      congr 5
      omega
  · next hone =>
    dsimp only
    split
    · next hfill =>
      refine ⟨_, spells_whole (k := d.exponent.toNat) ?_ hzero, ?_⟩
      · omega
      · simp only [Literal.text, Literal.fractionText, Literal.exponentText, List.append_nil, json]
        congr 3
        omega
    · next hsplit =>
      refine ⟨_, spells_split (k := (d.exponent + (digits d.digits).length).toNat) ?_ ?_ ?_, ?_⟩
      · omega
      · omega
      · omega
      · simp only [Literal.text, Literal.fractionText, Literal.exponentText, List.append_nil]
        have hbefore : (d.exponent + (digits d.digits).length - 1).toNat + 1 =
            (d.exponent + (digits d.digits).length).toNat := by omega
        rw [hbefore]

lemma exists_writeScientific (d : Decimal) :
    ∃ l, Spells l d ∧ writeScientific (digits d.digits)
      (d.exponent + (digits d.digits).length - 1) = l.text := by
  have hdigits := isDigits_digits d.digits
  have hvalue := digitsValue_digits d.digits
  generalize digits d.digits = ds at hdigits hvalue
  obtain ⟨c, more, rfl⟩ := List.exists_cons_of_ne_nil hdigits.ne_nil
  generalize hleading : d.exponent + ((c :: more).length : Int) - 1 = leading
  obtain ⟨hc, hmore⟩ := List.forall_mem_cons.mp hdigits.digits
  refine ⟨⟨[c], if more = [] then none else some more,
      some (decide (leading < 0), digits leading.natAbs)⟩,
    ⟨⟨⟨by simp, by simpa using hc⟩, ?_, ?_, ?_⟩, .inr rfl, ?_⟩, ?_⟩
  · intro hhead
    rw [Option.some.inj hhead]
  · intro ds hds
    split at hds
    · exact absurd hds nofun
    · next hne =>
      obtain rfl := Option.some.inj hds
      exact ⟨hne, hmore⟩
  · rintro negative _ ⟨⟩
    exact isDigits_digits _
  · have hfraction : (if more = [] then none else some more).getD [] = more := by
      split
      · next hnil => rw [hnil]; rfl
      · rfl
    have hdecimal : Literal.decimal ⟨[c], if more = [] then none else some more,
        some (decide (leading < 0), digits leading.natAbs)⟩ = d := by
      obtain ⟨n, exponent⟩ := d
      simp only [Literal.decimal, Literal.power, hfraction, List.singleton_append, hvalue,
        digitsValue_digits, Decimal.mk.injEq, true_and, decide_eq_true_eq]
      simp only [List.length_cons] at hleading
      split <;> omega
    rw [hdecimal]
  · cases more <;>
      simp [writeScientific, Literal.text, Literal.fractionText, Literal.exponentText]

/-- A written decimal is a literal of the same value, unless it is a zero with an exponent. -/
lemma exists_writeDecimal {d : Decimal} (hzero : d.digits = 0 → d.exponent = 0) :
    ∃ l, Spells l d ∧ json.writeDecimal d = l.text := by
  unfold writeDecimal
  dsimp only
  split
  · exact exists_writePositional hzero
  · exact exists_writeScientific d

end Layout

/-! ## Number texts -/

lemma Literal.WellFormed.exists_text_eq_cons {l : Literal} (h : l.WellFormed) :
    ∃ c more, l.text = c :: more ∧ isDigit c = true := by
  obtain ⟨c, more, hwhole⟩ := List.exists_cons_of_ne_nil h.whole.ne_nil
  refine ⟨c, more ++ (l.fractionText ++ l.exponentText), ?_, ?_⟩
  · rw [text, hwhole, List.cons_append]
  · exact h.whole.digits c (hwhole ▸ List.mem_cons_self)

/-- A minus is taken off in front; a text that begins with a digit has none. -/
lemma scanNumber_signed {c : Char} (hc : isDigit c = true) (negative : Bool) (more : List Char)
    (offset : Nat) :
    ∃ offset', scanNumber offset (if negative then '-' :: c :: more else c :: more) =
      scanUnsigned negative offset' (c :: more) := by
  cases negative with
  | true => exact ⟨offset + 1, rfl⟩
  | false =>
    refine ⟨offset, ?_⟩
    simp only [Bool.false_eq_true, if_false]
    unfold scanNumber
    split
    · next heq =>
      rw [(List.cons.inj heq).1] at hc
      exact absurd hc (by decide)
    · rfl

namespace Number

/-- The sign of a number's text. -/
def isNegative : Number → Bool
  | .whole n _ => n < 0
  | .real x => x.negative

/-- The text of a number without its sign. -/
def unsignedText : Number → List Char
  | .whole n _ => Layout.digits n.natAbs
  | .real x => Layout.json.writeDecimal (x.magnitude.shortest .even)

lemma text_eq (n : Number) :
    n.text = if n.isNegative then '-' :: n.unsignedText else n.unsignedText := by
  cases n with
  | whole n fits => simp only [text, intText, isNegative, unsignedText, decide_eq_true_eq]
  | real x => rfl

/-- A double is written as a literal of its value; the shortest decimal of zero has no exponent. -/
lemma exists_writeDecimal_shortest (tie : Tie) (m : Magnitude) :
    ∃ l : Literal, l.WellFormed ∧ (l.fraction.isSome ∨ l.exponent.isSome) ∧
      l.decimal.toMagnitude? = some m ∧ Layout.json.writeDecimal (m.shortest tie) = l.text := by
  have hread := m.toMagnitude?_shortest tie
  have hzero : (m.shortest tie).digits = 0 → (m.shortest tie).exponent = 0 := by
    intro hdigits
    have hunits : m.units = 0 := by
      unfold Decimal.toMagnitude? at hread
      rw [if_pos hdigits] at hread
      rw [← Option.some.inj hread]
      rfl
    rw [Magnitude.shortest, if_pos hunits]
  obtain ⟨l, hspells, htext⟩ := Layout.exists_writeDecimal hzero
  exact ⟨l, hspells.wellFormed, hspells.mark, hspells.value.trans hread, htext⟩

lemma exists_unsignedText_eq_cons (n : Number) :
    ∃ c more, n.unsignedText = c :: more ∧ isDigit c = true := by
  cases n with
  | whole n fits =>
    have hdigits := isDigits_digits n.natAbs
    obtain ⟨c, more, hcons⟩ := List.exists_cons_of_ne_nil hdigits.ne_nil
    exact ⟨c, more, hcons, hdigits.digits c (hcons ▸ List.mem_cons_self)⟩
  | real x =>
    obtain ⟨l, hformed, -, -, htext⟩ := exists_writeDecimal_shortest .even x.magnitude
    rw [unsignedText, htext]
    exact hformed.exists_text_eq_cons

lemma scanUnsigned_unsignedText (n : Number) (hrest : EndsNumber rest) (offset : Nat) :
    ∃ stop, scanUnsigned n.isNegative offset (n.unsignedText ++ rest) =
      .ok (.ok n, stop, rest) := by
  cases n with
  | whole n fits =>
    refine scanUnsigned_whole (isDigits_digits _) (noLeadingZero_digits _) hrest ?_ ?_ fits offset
    · rw [Layout.digitsValue_digits]
      simp only [isNegative, decide_eq_true_eq]
      split <;> omega
    · simp only [isNegative, decide_eq_true_eq]
      omega
  | real x =>
    obtain ⟨l, hformed, hmark, hvalue, htext⟩ := exists_writeDecimal_shortest .even x.magnitude
    rw [unsignedText, htext]
    exact Literal.scanUnsigned_real hformed hrest hmark hvalue x.negative offset

/-- A number is read back from its text. -/
lemma scanNumber_text (n : Number) (hrest : EndsNumber rest) (offset : Nat) :
    ∃ stop, scanNumber offset (n.text ++ rest) = .ok (.ok n, stop, rest) := by
  obtain ⟨c, more, hcons, hc⟩ := n.exists_unsignedText_eq_cons
  obtain ⟨offset', hsign⟩ := scanNumber_signed hc n.isNegative (more ++ rest) offset
  obtain ⟨stop, hread⟩ := n.scanUnsigned_unsignedText hrest offset'
  refine ⟨stop, ?_⟩
  have happend : n.text ++ rest = if n.isNegative then '-' :: c :: (more ++ rest)
      else c :: (more ++ rest) := by
    rw [text_eq, hcons]
    split <;> rfl
  rw [happend, hsign, ← hread, hcons, List.cons_append]

end Number

end CloudTemplate
