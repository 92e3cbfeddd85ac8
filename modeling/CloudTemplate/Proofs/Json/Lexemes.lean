import CloudTemplate.Json.Printer
import CloudTemplate.Proofs.Json.Basic
import CloudTemplate.Proofs.Json.Literal

/-!
# The lexemes of a written value

Cutting a text into tokens is told apart from where the text stands: `Lexes` says of a text that it
amounts to certain lexemes before what follows it, at whatever offset.  Such facts are put together
with `Lexes.append`, and each kind of token adds one of its own.  A number has to be followed by
something that does not go on with it, and nothing behind a value in a written document does.

`Json.lexemes` lists the lexemes of a value.  Blanks make no difference, so they are the lexemes of
the written value in every style that separates with blanks (`lexes_write`).
-/

namespace CloudTemplate

/-! ## Texts -/

lemma hexQuad?_control : ∀ n < 0x20,
    hexQuad? '0' '0' (Nat.digitChar (n / 16)) (Nat.digitChar (n % 16)) = some n := by
  decide

lemma scanText_plain {c : Char} (hquote : c ≠ '"') (hback : c ≠ '\\') (hcontrol : ¬ c.toNat < 0x20)
    (done rest : List Char) (offset : Nat) :
    scanText ⟨done, none, none⟩ offset (c :: rest) =
      scanText ⟨c :: done, none, none⟩ (offset + c.utf8Size) rest := by
  rw [scanText]
  · simp [TextState.noHalf, TextState.push, hcontrol]
  all_goals simp_all

/-- A character is read back from what is written for it. -/
lemma scanText_escapeChar (c : Char) (done rest : List Char) (offset : Nat) :
    ∃ offset', scanText ⟨done, none, none⟩ offset (escapeChar c ++ rest) =
      scanText ⟨c :: done, none, none⟩ offset' rest := by
  unfold escapeChar
  split
  -- Seven characters have escapes of two; any other has one of six, or stands for itself.
  case h_8 hquote hback _ _ _ _ _ =>
    split
    · next hcontrol =>
      have hlow : isLowSurrogate c.toNat = false := by simp [isLowSurrogate]; omega
      have hhigh : isHighSurrogate c.toNat = false := by simp [isHighSurrogate]; omega
      refine ⟨offset + 6, ?_⟩
      simp only [List.cons_append, List.nil_append]
      rw [scanText, hexQuad?_control _ hcontrol]
      simp [TextState.codeUnit, TextState.lone, TextState.push, hlow, hhigh]
    · next hcontrol => exact ⟨_, scanText_plain hquote hback hcontrol done rest offset⟩
  all_goals exact ⟨_, rfl⟩

/-- A text is read back from what is written between its quotes. -/
lemma scanText_escaped (cs done rest : List Char) (offset : Nat) :
    ∃ stop, scanText ⟨done, none, none⟩ offset (cs.flatMap escapeChar ++ '"' :: rest) =
      .closed (.ok (String.ofList (done.reverse ++ cs))) stop rest := by
  induction cs generalizing done offset with
  | nil => exact ⟨offset + 1, by simp [scanText, TextState.noHalf, TextState.content]⟩
  | cons c cs ih =>
    obtain ⟨offset', hc⟩ := scanText_escapeChar c done (cs.flatMap escapeChar ++ '"' :: rest) offset
    obtain ⟨stop, hcs⟩ := ih (c :: done) offset'
    refine ⟨stop, ?_⟩
    rw [List.flatMap_cons, List.append_assoc, hc, hcs, List.reverse_cons, List.append_assoc,
      List.singleton_append]

/-! ## Texts that amount to lexemes -/

/-- A text amounts to some lexemes if `rest` follows it, at whatever offset it stands. -/
def Lexes (text : List Char) (lexemes : List Lexeme) (rest : List Char) : Prop :=
  ∀ offset, ∃ front offset', tokensFrom offset (text ++ rest) = front ++ tokensFrom offset' rest ∧
    front.map Token.lexeme = lexemes

namespace Lexes

variable {text more rest : List Char} {lexemes others : List Lexeme} {lexeme : Lexeme}

lemma nil (rest : List Char) : Lexes [] [] rest := fun offset => ⟨[], offset, rfl, rfl⟩

lemma append (h : Lexes text lexemes (more ++ rest)) (hmore : Lexes more others rest) :
    Lexes (text ++ more) (lexemes ++ others) rest := by
  intro offset
  obtain ⟨front, middle, htext, hfront⟩ := h offset
  obtain ⟨back, offset', htail, hback⟩ := hmore middle
  refine ⟨front ++ back, offset', ?_, ?_⟩
  · rw [List.append_assoc, htext, htail, List.append_assoc]
  · rw [List.map_append, hfront, hback]

lemma cons {c : Char} (h : Lexes [c] [lexeme] (more ++ rest)) (hmore : Lexes more others rest) :
    Lexes (c :: more) (lexeme :: others) rest :=
  append h hmore

lemma of_spaces (h : ∀ c ∈ text, isSpace c = true) (rest : List Char) : Lexes text [] rest := by
  induction text with
  | nil => exact nil rest
  | cons c text ih =>
    obtain ⟨hc, htext⟩ := List.forall_mem_cons.mp h
    intro offset
    obtain ⟨front, offset', hread, hfront⟩ := ih htext (offset + 1)
    refine ⟨front, offset', ?_, hfront⟩
    rw [List.cons_append, tokensFrom, if_pos hc, hread]

lemma of_scanToken {c : Char} (hc : isSpace c = false)
    (h : ∀ offset, ∃ stop, scanToken offset c (text ++ rest) = (⟨offset, stop, lexeme⟩, rest)) :
    Lexes (c :: text) [lexeme] rest := by
  intro offset
  obtain ⟨stop, hscan⟩ := h offset
  refine ⟨[⟨offset, stop, lexeme⟩], stop, ?_, rfl⟩
  rw [List.cons_append, tokensFrom, hc, hscan]
  rfl

/-- Blanks in front make no difference. -/
lemma spaces_append (h : ∀ c ∈ text, isSpace c = true) (hmore : Lexes more lexemes rest) :
    Lexes (text ++ more) lexemes rest :=
  append (of_spaces h _) hmore

end Lexes

/-- Any token of one character. -/
lemma lexes_mark {c : Char} {lexeme : Lexeme} {rest : List Char} (hc : isSpace c = false)
    (h : ∀ offset, scanToken offset c rest = (⟨offset, offset + 1, lexeme⟩, rest)) :
    Lexes [c] [lexeme] rest :=
  .of_scanToken hc fun offset => ⟨offset + 1, h offset⟩

lemma lexes_writeText (text : String) (rest : List Char) :
    Lexes (writeText text) [.text (.ok text)] rest := by
  refine .of_scanToken rfl fun offset => ?_
  obtain ⟨stop, hread⟩ := scanText_escaped text.toList [] rest (offset + 1)
  refine ⟨stop, ?_⟩
  show scanToken offset '"' (text.toList.flatMap escapeChar ++ ['"'] ++ rest) = _
  rw [List.append_assoc, List.singleton_append]
  unfold scanToken
  simp only [TextState.start, hread, List.reverse_nil, List.nil_append, String.ofList_toList]

variable {rest : List Char}

lemma isSpace_of_number_start {c : Char} (h : c = '-' ∨ isDigit c = true) : isSpace c = false := by
  by_contra hspace
  rw [Bool.not_eq_false] at hspace
  simp only [isSpace, Bool.or_eq_true, beq_iff_eq] at hspace
  rcases hspace with ((rfl | rfl) | rfl) | rfl <;> exact absurd h (by decide)

lemma lexes_number (n : Number) (hrest : EndsNumber rest) :
    Lexes n.text [.number (.ok n)] rest := by
  obtain ⟨c, more, hcons, hc⟩ : ∃ c more, n.text = c :: more ∧ (c = '-' ∨ isDigit c = true) := by
    obtain ⟨c, more, hcons, hc⟩ := n.exists_unsignedText_eq_cons
    rw [n.text_eq, hcons]
    split
    · exact ⟨_, _, rfl, .inl rfl⟩
    · exact ⟨_, _, rfl, .inr hc⟩
  rw [hcons]
  refine .of_scanToken (isSpace_of_number_start hc) fun offset => ?_
  obtain ⟨stop, hread⟩ := n.scanNumber_text hrest offset
  rw [hcons, List.cons_append] at hread
  refine ⟨stop, ?_⟩
  unfold scanToken
  dsimp only
  split
  -- Of the first characters of tokens, only that of a number is a minus or a digit.
  case h_11 =>
    have hstart : (c == '-' || isDigit c) = true := by simpa using hc
    rw [if_pos hstart, hread]
  all_goals exact absurd hc (by decide)

/-! ## Written values -/

namespace Json

mutual

/-- The lexemes of a value. -/
def lexemes : Json → List Lexeme
  | .null => [.null]
  | .bool value => [.bool value]
  | .number value => [.number (.ok value)]
  | .string value => [.text (.ok value)]
  | .array [] => [.openList, .closeList]
  | .array (item :: more) => .openList :: (item.lexemes ++ lexemesOfItems more)
  | .object [] => [.openObject, .closeObject]
  | .object ((key, value) :: more) =>
    .openObject :: .text (.ok key) :: .colon :: (value.lexemes ++ lexemesOfEntries more)

/-- The lexemes of the items after the first, and of the closing bracket. -/
def lexemesOfItems : List Json → List Lexeme
  | [] => [.closeList]
  | item :: more => .comma :: (item.lexemes ++ lexemesOfItems more)

/-- The lexemes of the entries after the first, and of the closing bracket. -/
def lexemesOfEntries : List (String × Json) → List Lexeme
  | [] => [.closeObject]
  | (key, value) :: more =>
    .comma :: .text (.ok key) :: .colon :: (value.lexemes ++ lexemesOfEntries more)

end

end Json

/-- A style that separates with blanks alone. -/
structure Style.Blank (style : Style) : Prop where
  newline : ∀ level, ∀ c ∈ style.newline level, isSpace c = true
  afterColon : ∀ c ∈ style.afterColon, isSpace c = true

lemma Style.blank_compact : Style.compact.Blank where
  newline _ := List.forall_mem_nil _
  afterColon := List.forall_mem_nil _

lemma Style.blank_pretty : Style.pretty.Blank where
  newline level c hc := by
    rcases List.mem_cons.mp hc with rfl | hc
    · rfl
    · rw [List.eq_of_mem_replicate hc]
      rfl
  afterColon c hc := by
    rw [List.mem_singleton.mp hc]
    rfl

lemma endsNumber_nil : EndsNumber [] := nofun

lemma endsNumber_cons {c : Char} (h : c = ',' ∨ c = ']' ∨ c = '\x7d' ∨ isSpace c = true)
    (more : List Char) : EndsNumber (c :: more) := by
  rintro _ ⟨⟩
  simp only [isSpace, Bool.or_eq_true, beq_iff_eq] at h
  rcases h with rfl | rfl | rfl | ((rfl | rfl) | rfl) | rfl <;> decide

lemma endsNumber_spaces_append {text : List Char} (h : ∀ c ∈ text, isSpace c = true)
    (hrest : EndsNumber rest) : EndsNumber (text ++ rest) := by
  cases text with
  | nil => exact hrest
  | cons c text => exact endsNumber_cons (.inr (.inr (.inr (h c List.mem_cons_self)))) _

namespace Json

variable {style : Style} {level : Nat}

lemma endsNumber_writeItems (hstyle : style.Blank) (items : List Json) :
    EndsNumber (writeItems style level items ++ rest) := by
  cases items with
  | nil =>
    rw [writeItems, List.append_assoc]
    exact endsNumber_spaces_append (hstyle.newline _) (endsNumber_cons (.inr (.inl rfl)) _)
  | cons item more => exact endsNumber_cons (.inl rfl) _

lemma endsNumber_writeEntries (hstyle : style.Blank) (entries : Entries Json) :
    EndsNumber (writeEntries style level entries ++ rest) := by
  cases entries with
  | nil =>
    rw [writeEntries, List.append_assoc]
    exact endsNumber_spaces_append (hstyle.newline _) (endsNumber_cons (.inr (.inr (.inl rfl))) _)
  | cons entry more => exact endsNumber_cons (.inl rfl) _

/-- What is shown of each item holds of the items together. -/
lemma lexes_writeItems (hstyle : style.Blank) {items : List Json}
    (h : ∀ item ∈ items, ∀ rest, EndsNumber rest →
      Lexes (item.write style (level + 1)) item.lexemes rest) (rest : List Char) :
    Lexes (writeItems style level items) (lexemesOfItems items) rest := by
  induction items with
  | nil => exact .spaces_append (hstyle.newline level) (lexes_mark rfl fun _ => rfl)
  | cons item more ih =>
    obtain ⟨hitem, hmore⟩ := List.forall_mem_cons.mp h
    refine .cons (lexes_mark rfl fun _ => rfl) ?_
    rw [List.append_assoc]
    exact .spaces_append (hstyle.newline (level + 1))
      (.append (hitem _ (endsNumber_writeItems hstyle more)) (ih hmore))

lemma lexes_member (hstyle : style.Blank) {value : Json}
    (h : ∀ rest, EndsNumber rest → Lexes (value.write style (level + 1)) value.lexemes rest)
    (key : String) {more : List Char} {others : List Lexeme} (hends : EndsNumber (more ++ rest))
    (hmore : Lexes more others rest) :
    Lexes (style.newline (level + 1) ++ writeText key ++ ':' :: style.afterColon ++
        value.write style (level + 1) ++ more)
      (.text (.ok key) :: .colon :: (value.lexemes ++ others)) rest := by
  have hvalue := Lexes.spaces_append hstyle.afterColon (.append (h _ hends) hmore)
  have hcolon := Lexes.cons (@lexes_mark ':' .colon _ rfl fun _ => rfl) hvalue
  have hkey := Lexes.append (lexes_writeText key _) hcolon
  simpa [List.append_assoc] using Lexes.spaces_append (hstyle.newline (level + 1)) hkey

lemma lexes_writeEntries (hstyle : style.Blank) {entries : Entries Json}
    (h : ∀ name value, (name, value) ∈ entries → ∀ rest, EndsNumber rest →
      Lexes (value.write style (level + 1)) value.lexemes rest) (rest : List Char) :
    Lexes (writeEntries style level entries) (lexemesOfEntries entries) rest := by
  induction entries with
  | nil => exact .spaces_append (hstyle.newline level) (lexes_mark rfl fun _ => rfl)
  | cons entry more ih =>
    obtain ⟨key, value⟩ := entry
    obtain ⟨hvalue, hmore⟩ := Entries.forall_mem_cons_iff.mp h
    exact .cons (lexes_mark rfl fun _ => rfl) (lexes_member hstyle hvalue key
      (endsNumber_writeEntries hstyle more) (ih hmore))

/-- A written value amounts to its lexemes, in every style that separates with blanks. -/
lemma lexes_write (hstyle : style.Blank) (j : Json) (level : Nat) (hrest : EndsNumber rest) :
    Lexes (j.write style level) j.lexemes rest := by
  induction j generalizing level rest with
  | null => exact .of_scanToken rfl fun _ => ⟨_, rfl⟩
  | bool value => cases value <;> exact .of_scanToken rfl fun _ => ⟨_, rfl⟩
  | number n => exact lexes_number n hrest
  | string text => exact lexes_writeText text rest
  | array items ih =>
    cases items with
    | nil => exact .cons (lexes_mark rfl fun _ => rfl) (lexes_mark rfl fun _ => rfl)
    | cons item more =>
      obtain ⟨hitem, hmore⟩ := List.forall_mem_cons.mp ih
      have hitems := lexes_writeItems hstyle
        (fun item hmem rest hrest => hmore item hmem (level + 1) hrest) rest
      refine .cons (lexes_mark rfl fun _ => rfl) ?_
      rw [List.append_assoc]
      exact .spaces_append (hstyle.newline (level + 1))
        (.append (hitem (level + 1) (endsNumber_writeItems hstyle more)) hitems)
  | object entries ih =>
    cases entries with
    | nil => exact .cons (lexes_mark rfl fun _ => rfl) (lexes_mark rfl fun _ => rfl)
    | cons entry more =>
      obtain ⟨key, value⟩ := entry
      obtain ⟨hvalue, hmore⟩ := Entries.forall_mem_cons_iff.mp ih
      have hentries := lexes_writeEntries hstyle
        (fun name value hmem rest hrest => hmore name value hmem (level + 1) hrest) rest
      exact .cons (lexes_mark rfl fun _ => rfl) (lexes_member hstyle
        (fun rest hrest => hvalue (level + 1) hrest) key (endsNumber_writeEntries hstyle more)
        hentries)

/-- The tokens of the text of a value are its lexemes. -/
lemma map_lexeme_tokens_write (hstyle : style.Blank) (j : Json) :
    (tokens (String.ofList (j.write style 0))).map Token.lexeme = j.lexemes := by
  obtain ⟨front, offset', hread, hfront⟩ := j.lexes_write hstyle 0 endsNumber_nil 0
  rw [tokens, String.toList_ofList]
  rw [List.append_nil] at hread
  rw [hread, tokensFrom, List.append_nil, hfront]

end Json

end CloudTemplate
