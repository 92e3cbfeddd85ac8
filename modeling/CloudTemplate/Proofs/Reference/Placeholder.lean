import CloudTemplate.Proofs.Text.Blank
import CloudTemplate.Reference.Placeholder
import Mathlib.Data.List.Chain
import Mathlib.Data.List.Infix

/-!
# The grammar of placeholders

The text of an `Fn::Sub` can be cut into pieces: literals in which no placeholder begins, and
placeholders, of which the last one need not be closed (`SubText`).  Every text can be cut so, and
the names that are read from a text are those of its closed placeholders, in their order
(`subVariables_eq_iff_uses`).

The reader goes through the characters one by one.  A literal does not take it into a placeholder,
unless what follows the literal completes an opening that the literal has begun; this is why no two
literals stand side by side (`placeholderBodies_literal`).  Inside a placeholder nothing but a
closing brace counts, not even another opening.
-/

namespace CloudTemplate

variable {body core text rest : List Char} {name : String}

/-! ## The name in a placeholder -/

/-- A body without outer blanks is meant as a name: something is left of it, and no exclamation mark
comes first. -/
def Speaks (core : List Char) : Prop := core ≠ [] ∧ ∀ literal, core ≠ '!' :: literal

/-- The name in a body without outer blanks. -/
inductive NamedIn (core : List Char) : String → Prop
  /-- What the deployment supplies is named as a whole. -/
  | whole : "AWS::".toList <+: core → NamedIn core (String.ofList core)
  /-- Any other name ends before the first dot. -/
  | target {target attributeName : List Char} : ¬ "AWS::".toList <+: core →
      core = target ++ attributeName → '.' ∉ target →
      (attributeName = [] ∨ ∃ more, attributeName = '.' :: more) →
      NamedIn core (String.ofList target)

/-- The part before the first dot. -/
lemma takeWhile_ne_dot {target attributeName : List Char} (h : '.' ∉ target)
    (hrest : attributeName = [] ∨ ∃ more, attributeName = '.' :: more) :
    (target ++ attributeName).takeWhile (· != '.') = target := by
  have htarget : ∀ c ∈ target, (c != '.') = true := fun c hc => by
    rw [bne_iff_ne]
    exact fun hdot => h (hdot ▸ hc)
  rw [List.takeWhile_append_of_pos htarget]
  rcases hrest with rfl | ⟨more, rfl⟩
  · rw [List.takeWhile_nil, List.append_nil]
  · rw [List.takeWhile_cons_of_neg (by simp), List.append_nil]

lemma exists_attributeName (core : List Char) : ∃ attributeName,
    core = core.takeWhile (· != '.') ++ attributeName ∧
      (attributeName = [] ∨ ∃ more, attributeName = '.' :: more) := by
  refine ⟨core.dropWhile (· != '.'), List.takeWhile_append_dropWhile.symm, ?_⟩
  cases hrest : core.dropWhile (· != '.') with
  | nil => exact .inl rfl
  | cons c more =>
    have hc := List.head_dropWhile_not (· != '.') (l := core) (by simp [hrest])
    simp only [hrest, List.head_cons, bne_eq_false_iff_eq] at hc
    exact .inr ⟨more, by rw [hc]⟩

lemma placeholderName?_of_speaks (h : Trims body core) (hspeaks : Speaks core) :
    placeholderName? body = some (if "AWS::".toList.isPrefixOf core then String.ofList core
      else String.ofList (core.takeWhile (· != '.'))) := by
  obtain ⟨hblank, hmark⟩ := hspeaks
  unfold placeholderName?
  rw [trimBlanks_eq_iff.mpr h]
  split
  · exact absurd rfl hblank
  · exact absurd rfl (hmark _)
  · split <;> rfl

/-- What is read in a placeholder that is mute. -/
lemma placeholderName?_eq_none (h : Trims body core) (hmute : ¬ Speaks core) :
    placeholderName? body = none := by
  unfold placeholderName?
  rw [trimBlanks_eq_iff.mpr h]
  split
  · rfl
  · rfl
  · next hblank hmark => exact absurd ⟨hblank, hmark⟩ hmute

/-- What is read in any other. -/
lemma placeholderName?_eq_some_iff (h : Trims body core) (hspeaks : Speaks core) :
    placeholderName? body = some name ↔ NamedIn core name := by
  rw [placeholderName?_of_speaks h hspeaks, Option.some.injEq]
  constructor
  · rintro rfl
    split
    · next hwhole => exact .whole (List.isPrefixOf_iff_prefix.mp hwhole)
    · next hwhole =>
      obtain ⟨attributeName, hcore, hrest⟩ := exists_attributeName core
      refine .target (fun hprefix => hwhole (List.isPrefixOf_iff_prefix.mpr hprefix)) hcore ?_ hrest
      exact fun hdot => by simpa using List.mem_takeWhile_imp hdot
  · rintro (hwhole | ⟨hwhole, rfl, hdot, hrest⟩)
    · rw [if_pos (List.isPrefixOf_iff_prefix.mpr hwhole)]
    · rw [if_neg (fun hprefix => hwhole (List.isPrefixOf_iff_prefix.mp hprefix)),
        takeWhile_ne_dot hdot hrest]

/-! ## Texts in pieces -/

/-- A piece of the text of an `Fn::Sub`. -/
inductive Piece where
  | literal (text : List Char)
  /-- A closed placeholder. -/
  | placeholder (body : List Char)

namespace Piece

/-- The characters of a piece. -/
def chars : Piece → List Char
  | .literal text => text
  | .placeholder body => '$' :: '\x7b' :: (body ++ ['\x7d'])

/-- The body of a placeholder. -/
def body? : Piece → Option (List Char)
  | .literal _ => none
  | .placeholder body => some body

/-- No placeholder begins in a literal, and a placeholder ends with its body. -/
def Lawful : Piece → Prop
  | .literal text => ¬ ['$', '\x7b'] <:+: text
  | .placeholder body => '\x7d' ∉ body

/-- At least one of two pieces is a placeholder. -/
def Apart (a b : Piece) : Prop := a.body?.isSome = true ∨ b.body?.isSome = true

end Piece

/-- The text of an `Fn::Sub`, cut into pieces. -/
structure SubText where
  pieces : List Piece
  /-- What follows the opening of a placeholder at the end that is not closed. -/
  tail : Option (List Char)
  lawful : ∀ piece ∈ pieces, piece.Lawful
  /-- No two literals stand side by side. -/
  apart : pieces.IsChain Piece.Apart
  unclosed : ∀ rest ∈ tail, '\x7d' ∉ rest

/-- The characters of pieces and of what is behind them. -/
def charsOf (pieces : List Piece) (tail : Option (List Char)) : List Char :=
  pieces.flatMap Piece.chars ++ match tail with
    | some rest => '$' :: '\x7b' :: rest
    | none => []

lemma charsOf_cons (piece : Piece) (pieces : List Piece) (tail : Option (List Char)) :
    charsOf (piece :: pieces) tail = piece.chars ++ charsOf pieces tail := by
  unfold charsOf
  rw [List.flatMap_cons, List.append_assoc]

/-- The text as a whole. -/
def SubText.chars (t : SubText) : List Char := charsOf t.pieces t.tail

/-- The names that pieces use. -/
inductive Uses : List Piece → List String → Prop
  | nil : Uses [] []
  /-- A literal names nothing. -/
  | literal {text pieces names} : Uses pieces names → Uses (.literal text :: pieces) names
  | mute {body core pieces names} : Trims body core → ¬ Speaks core → Uses pieces names →
      Uses (.placeholder body :: pieces) names
  | named {body core name pieces names} : Trims body core → Speaks core → NamedIn core name →
      Uses pieces names → Uses (.placeholder body :: pieces) (name :: names)

variable {pieces : List Piece} {tail : Option (List Char)} {names : List String}

/-- The names are read from the bodies of the placeholders. -/
lemma uses_iff : Uses pieces names ↔
    (pieces.filterMap Piece.body?).filterMap placeholderName? = names := by
  constructor
  · intro h
    induction h with
    | nil => rfl
    | literal _ ih => exact ih
    | mute htrims hmute _ ih =>
      exact (List.filterMap_cons_none (placeholderName?_eq_none htrims hmute)).trans ih
    | named htrims hspeaks hname _ ih =>
      have hread := (placeholderName?_eq_some_iff htrims hspeaks).mpr hname
      exact (List.filterMap_cons_some hread).trans (congrArg _ ih)
  · rintro rfl
    induction pieces with
    | nil => exact .nil
    | cons piece pieces ih =>
      cases piece with
      | literal text => exact .literal ih
      | placeholder body =>
        show Uses _ ((body :: pieces.filterMap Piece.body?).filterMap placeholderName?)
        have htrims := trims_trimBlanks body
        by_cases hspeaks : Speaks (trimBlanks body)
        · have hread := placeholderName?_of_speaks htrims hspeaks
          rw [List.filterMap_cons_some hread]
          exact .named htrims hspeaks ((placeholderName?_eq_some_iff htrims hspeaks).mp hread) ih
        · rw [List.filterMap_cons_none (placeholderName?_eq_none htrims hspeaks)]
          exact .mute htrims hspeaks ih

/-! ## Reading pieces -/

/-- What follows a literal does not complete an opening. -/
lemma charsOf_ne_brace (h : (.literal text :: pieces).IsChain Piece.Apart) (more : List Char) :
    charsOf pieces tail ≠ '\x7b' :: more := by
  cases pieces with
  | nil => cases tail <;> simp [charsOf]
  | cons piece pieces =>
    cases piece with
    | placeholder body => simp [charsOf, Piece.chars]
    | literal other =>
      have hapart := (List.isChain_cons_cons.mp h).1
      exact absurd hapart (by simp [Piece.Apart, Piece.body?])

/-- The reader passes over a literal. -/
lemma placeholderBodies_literal (h : ¬ ['$', '\x7b'] <:+: text)
    (hrest : ∀ more, rest ≠ '\x7b' :: more) :
    placeholderBodies none (text ++ rest) = placeholderBodies none rest := by
  induction text with
  | nil => rfl
  | cons c text ih =>
    have htext : ¬ ['$', '\x7b'] <:+: text := fun hinfix => h (List.infix_cons hinfix)
    rw [List.cons_append, placeholderBodies, ih htext]
    -- The only other reading is that an opening begins here.
    rintro more rfl hopen
    cases text with
    | nil => exact hrest more hopen
    | cons d text =>
      obtain ⟨rfl, -⟩ := List.cons.inj hopen
      exact h ⟨[], text, rfl⟩

/-- The reader takes a body up to the brace that closes it. -/
lemma placeholderBodies_closed (h : '\x7d' ∉ text) (body rest : List Char) :
    placeholderBodies (some body) (text ++ '\x7d' :: rest) =
      (body.reverse ++ text) :: placeholderBodies none rest := by
  induction text generalizing body with
  | nil => simp [placeholderBodies]
  | cons c text ih =>
    obtain ⟨hc, htext⟩ := not_or.mp (fun hmem => h (List.mem_cons.mpr hmem))
    rw [List.cons_append, placeholderBodies, if_neg (Ne.symm hc), ih htext]
    simp

lemma placeholderBodies_unclosed (h : '\x7d' ∉ text) (body : List Char) :
    placeholderBodies (some body) text = [] := by
  induction text generalizing body with
  | nil => rw [placeholderBodies]
  | cons c text ih =>
    obtain ⟨hc, htext⟩ := not_or.mp (fun hmem => h (List.mem_cons.mpr hmem))
    rw [placeholderBodies, if_neg (Ne.symm hc), ih htext]

/-- The reader finds the bodies of the closed placeholders. -/
lemma placeholderBodies_charsOf (hlawful : ∀ piece ∈ pieces, piece.Lawful)
    (hapart : pieces.IsChain Piece.Apart) (htail : ∀ rest ∈ tail, '\x7d' ∉ rest) :
    placeholderBodies none (charsOf pieces tail) = pieces.filterMap Piece.body? := by
  induction pieces with
  | nil =>
    cases tail with
    | none => rfl
    | some rest => exact placeholderBodies_unclosed (htail rest rfl) []
  | cons piece pieces ih =>
    obtain ⟨hpiece, hpieces⟩ := List.forall_mem_cons.mp hlawful
    have hrest := ih hpieces hapart.of_cons
    rw [charsOf_cons]
    cases piece with
    | literal text =>
      exact (placeholderBodies_literal hpiece (charsOf_ne_brace hapart)).trans hrest
    | placeholder body =>
      have hclosed := placeholderBodies_closed hpiece [] (charsOf pieces tail)
      rw [hrest] at hclosed
      show placeholderBodies (some []) (body ++ ['\x7d'] ++ charsOf pieces tail) =
        body :: pieces.filterMap Piece.body?
      rwa [List.append_assoc]

/-! ## Cutting a text -/

lemma lawful_literal_cons {c : Char} (h : (Piece.literal text).Lawful)
    (hopen : ∀ more, c = '$' → text ≠ '\x7b' :: more) : (Piece.literal (c :: text)).Lawful := by
  intro hinfix
  rcases List.infix_cons_iff.mp hinfix with hprefix | hinfix
  · obtain ⟨hc, more, htext⟩ := List.cons_prefix_cons.mp hprefix
    exact hopen more hc.symm htext.symm
  · exact h hinfix

/-- One more character in front of a text that has been cut belongs to a literal. -/
lemma exists_cut_cons (t : SubText) {c : Char}
    (hopen : ∀ more, c = '$' → t.chars ≠ '\x7b' :: more) :
    ∃ t' : SubText, t'.chars = c :: t.chars := by
  obtain ⟨pieces, tail, hlawful, hapart, hunclosed⟩ := t
  have hempty : (Piece.literal []).Lawful := by simp [Piece.Lawful]
  have hsingle : (Piece.literal [c]).Lawful := lawful_literal_cons hempty (by simp)
  rcases pieces with _ | ⟨text | body, pieces⟩
  · exact ⟨⟨[.literal [c]], tail, List.forall_mem_singleton.mpr hsingle, .singleton _, hunclosed⟩,
      charsOf_cons _ _ _⟩
  · -- A literal that comes first takes the character up.
    obtain ⟨htext, hpieces⟩ := List.forall_mem_cons.mp hlawful
    obtain ⟨hfirst, hchain⟩ := List.isChain_cons.mp hapart
    have hlonger : (Piece.literal (c :: text)).Lawful := by
      refine lawful_literal_cons htext fun more hc htext =>
        hopen (more ++ charsOf pieces tail) hc ?_
      show charsOf (.literal text :: pieces) tail = _
      rw [charsOf_cons, htext]
      rfl
    refine ⟨⟨.literal (c :: text) :: pieces, tail, List.forall_mem_cons.mpr ⟨hlonger, hpieces⟩,
      List.isChain_cons.mpr ⟨hfirst, hchain⟩, hunclosed⟩, ?_⟩
    show charsOf _ _ = c :: charsOf _ _
    rw [charsOf_cons, charsOf_cons]
    rfl
  · exact ⟨⟨.literal [c] :: _, tail, List.forall_mem_cons.mpr ⟨hsingle, hlawful⟩,
      List.isChain_cons_cons.mpr ⟨.inr rfl, hapart⟩, hunclosed⟩, charsOf_cons _ _ _⟩

/-- Every text can be cut into pieces. -/
lemma exists_cut (text : List Char) : ∃ t : SubText, t.chars = text := by
  -- What is left behind a closed placeholder may be much shorter: the induction is on the length.
  induction hlength : text.length using Nat.strong_induction_on generalizing text with
  | h length ih =>
    subst hlength
    by_cases hopen : ∃ more, text = '$' :: '\x7b' :: more
    · obtain ⟨more, rfl⟩ := hopen
      by_cases hclosed : '\x7d' ∈ more
      · obtain ⟨body, rest, rfl, hbody⟩ := List.eq_append_cons_of_mem hclosed
        obtain ⟨⟨pieces, tail, hlawful, hapart, hunclosed⟩, hchars⟩ :=
          ih rest.length (by simp only [List.length_cons, List.length_append]; omega) rest rfl
        refine ⟨⟨.placeholder body :: pieces, tail, List.forall_mem_cons.mpr ⟨hbody, hlawful⟩,
          List.isChain_cons.mpr ⟨fun _ _ => .inl rfl, hapart⟩, hunclosed⟩, ?_⟩
        show charsOf _ _ = _
        rw [charsOf_cons, ← hchars]
        simp [Piece.chars, SubText.chars]
      · exact ⟨⟨[], some more, by simp, .nil, by simpa using hclosed⟩, rfl⟩
    · cases text with
      | nil => exact ⟨⟨[], none, by simp, .nil, by simp⟩, rfl⟩
      | cons c more =>
        obtain ⟨t, rfl⟩ := ih more.length (Nat.lt_succ_self _) more rfl
        refine exists_cut_cons t fun rest hc hrest => hopen ⟨rest, ?_⟩
        rw [hc, hrest]

/-- Every text can be cut into pieces, and whichever way it is cut, the names that are read from it
are those of its closed placeholders, in their order. -/
theorem subVariables_eq_iff_uses :
    (∀ text : String, ∃ t : SubText, text = String.ofList t.chars) ∧
      ∀ (t : SubText) (names : List String),
        subVariables (String.ofList t.chars) = names ↔ Uses t.pieces names := by
  constructor
  · intro text
    obtain ⟨t, ht⟩ := exists_cut text.toList
    exact ⟨t, by rw [ht, String.ofList_toList]⟩
  · intro t names
    have hbodies := placeholderBodies_charsOf t.lawful t.apart t.unclosed
    rw [uses_iff, subVariables, String.toList_ofList, SubText.chars, hbodies]

example : subVariables
    "$$\x7b A.B \x7d$\x7b!A\x7d$\x7bAWS::A.B\x7d.$\x7b \x7d$\x7b$\x7bA\x7d\x7d$\x7bA" =
      ["A", "AWS::A.B", "$\x7bA"] := by
  decide +kernel

end CloudTemplate
