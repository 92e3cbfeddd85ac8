import CloudTemplate.Proofs.Json.Lexemes

/-!
# Documents at the end of others

A text without blanks is read from left to right with a memory for two things alone: how many
brackets are open, and whether the reader is inside quotes (`Place`).  A written value leads back to
the level where it began, and in between never below it (`Json.returns_write`).

So a document cannot end with another one.  Where a shorter one begins between tokens, a bracket of
the longer one is open still, and the shorter one does not close it.  Where it begins inside quotes,
its first name opens with the quote that closes them, and behind that quote no letter can stand
(`Json.eq_nil_of_write_eq_append`).
-/

namespace CloudTemplate

/-- Where a reader is in a text without blanks, with the number of open brackets. -/
inductive Place where
  /-- Between tokens, or inside one that has no quotes. -/
  | between (level : Nat)
  /-- Inside quotes. -/
  | quoted (level : Nat)
  /-- Inside quotes, behind a backslash. -/
  | escaped (level : Nat)
  /-- Behind the closing quote. -/
  | closed (level : Nat)
  /-- Where no value leads: something else than a mark is behind a closing quote. -/
  | broken

/-- Neither a quote nor a bracket. -/
def isPlain (c : Char) : Bool := !(c == '"' || c == '[' || c == '\x7b' || c == ']' || c == '\x7d')

/-- Whether a character may stand behind a closing quote. -/
def isMark (c : Char) : Bool := c == ',' || c == ':' || c == ']' || c == '\x7d'

namespace Place

/-- The place behind a character that stands between tokens. -/
def stepBetween (level : Nat) : Char → Place
  | '"' => .quoted level
  | '[' | '\x7b' => .between (level + 1)
  | ']' | '\x7d' => .between (level - 1)
  | _ => .between level

/-- The place behind the next character. -/
def step : Place → Char → Place
  | .between level, c => stepBetween level c
  | .quoted level, '"' => .closed level
  | .quoted level, '\\' => .escaped level
  | .quoted level, _ => .quoted level
  | .escaped level, _ => .quoted level
  | .closed level, c => if isMark c then stepBetween level c else .broken
  | .broken, _ => .broken

/-- A place where at least so many brackets are open. -/
def AtLeast (least : Nat) : Place → Prop
  | .between level | .quoted level | .escaped level | .closed level => least ≤ level
  | .broken => False

/-- A place where a value may end. -/
def Settled (level : Nat) (p : Place) : Prop := p = .between level ∨ p = .closed level

/-- A text leads from one place to another, and nowhere on the way are fewer brackets open. -/
inductive Passes (least : Nat) : Place → List Char → Place → Prop
  | nil {p} : p.AtLeast least → Passes least p [] p
  | cons {p c text q} : p.AtLeast least → Passes least (p.step c) text q →
      Passes least p (c :: text) q

variable {level least other : Nat} {p q r : Place} {c : Char} {text more : List Char}

lemma AtLeast.mono (h : p.AtLeast least) (hle : other ≤ least) : p.AtLeast other := by
  cases p with
  | broken => exact h
  | _ => exact hle.trans h

namespace Settled

lemma atLeast (h : Settled level p) : p.AtLeast level := by
  rcases h with rfl | rfl <;> exact le_rfl

lemma step_mark (h : Settled level p) (hc : isMark c = true) : p.step c = stepBetween level c := by
  rcases h with rfl | rfl
  · rfl
  · exact if_pos hc

end Settled

namespace Passes

lemma start (h : Passes least p text q) : p.AtLeast least := by
  cases h <;> assumption

lemma tail (h : Passes least p (c :: text) q) : Passes least (p.step c) text q := by
  cases h
  assumption

lemma mono (h : Passes least p text q) (hle : other ≤ least) : Passes other p text q := by
  induction h with
  | nil hp => exact .nil (hp.mono hle)
  | cons hp _ ih => exact .cons (hp.mono hle) ih

lemma append (h : Passes least p text q) (hmore : Passes least q more r) :
    Passes least p (text ++ more) r := by
  induction h with
  | nil _ => exact hmore
  | cons hp _ ih => exact .cons hp (ih hmore)

/-- The place in the middle of a text. -/
lemma split (h : Passes least p (text ++ more) r) :
    ∃ q, Passes least p text q ∧ Passes least q more r := by
  induction text generalizing p with
  | nil => exact ⟨p, .nil h.start, h⟩
  | cons c text ih =>
    cases h with
    | cons hp htext =>
      obtain ⟨q, hfirst, hrest⟩ := ih htext
      exact ⟨q, .cons hp hfirst, hrest⟩

/-- A text leads to one place only. -/
lemma unique (h : Passes least p text q) (h' : Passes other p text r) : q = r := by
  induction h with
  | nil _ =>
    cases h'
    rfl
  | cons _ _ ih =>
    cases h' with
    | cons _ htext => exact ih htext

end Passes

/-! ## Words and texts -/

lemma stepBetween_of_isPlain (hc : isPlain c = true) : stepBetween level c = .between level := by
  unfold stepBetween
  split <;> first | rfl | exact absurd hc (by decide)

/-- Words and numbers change nothing. -/
lemma passes_of_isPlain (h : ∀ c ∈ text, isPlain c = true) :
    Passes level (.between level) text (.between level) := by
  induction text with
  | nil => exact .nil le_rfl
  | cons c text ih =>
    obtain ⟨hc, htext⟩ := List.forall_mem_cons.mp h
    refine .cons le_rfl ?_
    rw [step, stepBetween_of_isPlain hc]
    exact ih htext

/-- Inside quotes nothing else than a quote and a backslash counts. -/
lemma passes_of_inner (h : ∀ c ∈ text, c ≠ '"' ∧ c ≠ '\\') :
    Passes level (.quoted level) text (.quoted level) := by
  induction text with
  | nil => exact .nil le_rfl
  | cons c text ih =>
    obtain ⟨⟨hquote, hback⟩, htext⟩ := List.forall_mem_cons.mp h
    refine .cons le_rfl ?_
    have hstep : (quoted level).step c = .quoted level := by
      unfold step
      split <;> simp_all
    rw [hstep]
    exact ih htext

lemma digitChar_ne : ∀ n < 16, Nat.digitChar n ≠ '"' ∧ Nat.digitChar n ≠ '\\' := by
  decide

/-- What is written for a character stays inside the quotes. -/
lemma passes_escapeChar (c : Char) :
    Passes level (.quoted level) (escapeChar c) (.quoted level) := by
  unfold escapeChar
  split
  -- An escape of two characters leads through `escaped`; in the others no quote appears.
  case h_8 hquote hback _ _ _ _ _ =>
    split
    · next hcontrol =>
      have hdigits : ∀ d ∈ ['0', '0', Nat.digitChar (c.toNat / 16), Nat.digitChar (c.toNat % 16)],
          d ≠ '"' ∧ d ≠ '\\' := by
        have hhigh := digitChar_ne (c.toNat / 16) (by omega)
        have hlow := digitChar_ne (c.toNat % 16) (by omega)
        simp [hhigh, hlow]
      exact .cons le_rfl (.cons le_rfl (passes_of_inner hdigits))
    · exact passes_of_inner (List.forall_mem_singleton.mpr ⟨hquote, hback⟩)
  all_goals exact .cons le_rfl (.cons le_rfl (.nil le_rfl))

/-- A written text ends behind its closing quote. -/
lemma passes_writeText (text : String) :
    Passes level (.between level) (writeText text) (.closed level) := by
  have hinner : ∀ cs : List Char,
      Passes level (.quoted level) (cs.flatMap escapeChar) (.quoted level) := by
    intro cs
    induction cs with
    | nil => exact .nil le_rfl
    | cons c cs ih =>
      rw [List.flatMap_cons]
      exact (passes_escapeChar c).append ih
  have hend : Passes level (.quoted level) ['"'] (.closed level) := .cons le_rfl (.nil le_rfl)
  exact .cons le_rfl ((hinner text.toList).append hend)

end Place

/-! ## Numbers -/

lemma isPlain_of_isDigit {c : Char} (h : isDigit c = true) : isPlain c = true := by
  by_contra hspecial
  simp only [isPlain, Bool.not_eq_true', Bool.not_eq_false, Bool.or_eq_true, beq_iff_eq]
    at hspecial
  rcases hspecial with (((rfl | rfl) | rfl) | rfl) | rfl <;> exact absurd h (by decide)

lemma IsDigits.plain {ds : List Char} (h : IsDigits ds) : ∀ c ∈ ds, isPlain c = true :=
  fun c hc => isPlain_of_isDigit (h.digits c hc)

lemma Literal.WellFormed.plain {l : Literal} (h : l.WellFormed) :
    ∀ c ∈ l.text, isPlain c = true := by
  have hfraction : ∀ c ∈ l.fractionText, isPlain c = true := by
    unfold fractionText
    split
    · next ds hds => exact List.forall_mem_cons.mpr ⟨rfl, (h.fraction ds hds).plain⟩
    · exact List.forall_mem_nil _
  have hexponent : ∀ c ∈ l.exponentText, isPlain c = true := by
    unfold exponentText
    split
    · next negative ds hds =>
      refine List.forall_mem_cons.mpr ⟨rfl, List.forall_mem_cons.mpr ⟨?_, ?_⟩⟩
      · cases negative <;> rfl
      · exact (h.exponent negative ds hds).plain
    · exact List.forall_mem_nil _
  rw [text, List.forall_mem_append, List.forall_mem_append]
  exact ⟨h.whole.plain, hfraction, hexponent⟩

lemma Number.plain (n : Number) : ∀ c ∈ n.text, isPlain c = true := by
  have hunsigned : ∀ c ∈ n.unsignedText, isPlain c = true := by
    cases n with
    | whole n fits => exact (isDigits_digits n.natAbs).plain
    | real x =>
      obtain ⟨l, hformed, -, -, htext⟩ := exists_writeDecimal_shortest .even x.magnitude
      rw [unsignedText, htext]
      exact hformed.plain
  rw [n.text_eq]
  split
  · exact List.forall_mem_cons.mpr ⟨rfl, hunsigned⟩
  · exact hunsigned

/-! ## Texts that return to their level -/

open Place

/-- A text that begins between tokens ends on the level where it began, and stays above it. -/
def Returns (text : List Char) : Prop :=
  ∀ level, ∃ q, q.Settled level ∧ Passes level (.between level) text q

lemma returns_of_plain {text : List Char} (h : ∀ c ∈ text, isPlain c = true) : Returns text :=
  fun _ => ⟨_, .inl rfl, passes_of_isPlain h⟩

lemma returns_writeText (text : String) : Returns (writeText text) :=
  fun _ => ⟨_, .inr rfl, passes_writeText text⟩

namespace Returns

variable {text more : List Char} {c opening closing : Char}

/-- Two texts may have a comma or a colon between them. -/
lemma append_cons (h : Returns text) (hmore : Returns more) (hmark : isMark c = true)
    (hplain : isPlain c = true) : Returns (text ++ c :: more) := by
  intro level
  obtain ⟨q, hq, htext⟩ := h level
  obtain ⟨r, hr, hrest⟩ := hmore level
  refine ⟨r, hr, htext.append (.cons hq.atLeast ?_)⟩
  rw [hq.step_mark hmark, stepBetween_of_isPlain hplain]
  exact hrest

lemma intercalate {parts : List (List Char)} (h : ∀ part ∈ parts, Returns part) :
    Returns ([','].intercalate parts) := by
  match parts with
  | [] => exact returns_of_plain (List.forall_mem_nil _)
  | [part] =>
    rw [List.intercalate_singleton]
    exact h part List.mem_cons_self
  | part :: next :: rest =>
    obtain ⟨hpart, hrest⟩ := List.forall_mem_cons.mp h
    rw [List.intercalate_cons_cons, List.append_assoc, List.singleton_append]
    exact hpart.append_cons (intercalate hrest) rfl rfl

/-- What stands between brackets is a level higher, and the brackets lead back. -/
lemma enclosed (h : Returns text)
    (hopening : ∀ level, stepBetween level opening = .between (level + 1))
    (hclosing : ∀ level, stepBetween level closing = .between (level - 1))
    (hmark : isMark closing = true) : Returns (opening :: (text ++ [closing])) := by
  intro level
  obtain ⟨q, hq, htext⟩ := h (level + 1)
  have hle : level ≤ level + 1 := Nat.le_succ level
  refine ⟨_, .inl rfl, .cons le_rfl ?_⟩
  rw [step, hopening]
  refine (htext.mono hle).append (.cons (hq.atLeast.mono hle) ?_)
  rw [hq.step_mark hmark, hclosing, Nat.add_sub_cancel]
  exact .nil le_rfl

end Returns

/-! ## Written values -/

namespace Json

/-- An entry as it is written without blanks. -/
def writeEntry (indent : Nat) (entry : String × Json) : List Char :=
  writeText entry.1 ++ ':' :: entry.2.write .compact indent

/-- Behind the text of the first item, those of the others follow, each with a comma in front. -/
lemma append_writeItems_compact (first : List Char) (indent : Nat) (items : List Json) :
    first ++ writeItems .compact indent items =
      [','].intercalate (first :: items.map (write .compact (indent + 1))) ++ [']'] := by
  induction items generalizing first with
  | nil =>
    rw [List.map_nil, List.intercalate_singleton]
    rfl
  | cons item more ih =>
    rw [List.map_cons, List.intercalate_cons_cons, List.append_assoc, ← ih, writeItems]
    simp [Style.compact]

lemma append_writeEntries_compact (first : List Char) (indent : Nat) (entries : Entries Json) :
    first ++ writeEntries .compact indent entries =
      [','].intercalate (first :: entries.map (writeEntry (indent + 1))) ++ ['\x7d'] := by
  induction entries generalizing first with
  | nil =>
    rw [List.map_nil, List.intercalate_singleton]
    rfl
  | cons entry more ih =>
    rw [List.map_cons, List.intercalate_cons_cons, List.append_assoc, ← ih, writeEntries]
    simp [Style.compact, writeEntry]

lemma write_array_compact (items : List Json) (indent : Nat) :
    (array items).write .compact indent =
      '[' :: ([','].intercalate (items.map (write .compact (indent + 1))) ++ [']']) := by
  cases items with
  | nil => rfl
  | cons item more =>
    rw [List.map_cons, ← append_writeItems_compact, write]
    simp [Style.compact]

lemma write_object_compact (entries : Entries Json) (indent : Nat) :
    (object entries).write .compact indent =
      '\x7b' :: ([','].intercalate (entries.map (writeEntry (indent + 1))) ++ ['\x7d']) := by
  cases entries with
  | nil => rfl
  | cons entry more =>
    rw [List.map_cons, ← append_writeEntries_compact, write]
    simp [Style.compact, writeEntry]

/-- What an object holds between its braces. -/
lemma returns_entries {entries : Entries Json}
    (h : ∀ name value, (name, value) ∈ entries → ∀ indent, Returns (value.write .compact indent))
    (indent : Nat) : Returns ([','].intercalate (entries.map (writeEntry indent))) := by
  refine .intercalate (List.forall_mem_map.mpr ?_)
  rintro ⟨name, value⟩ hmem
  exact (returns_writeText name).append_cons (h name value hmem indent) rfl rfl

lemma returns_write (j : Json) (indent : Nat) : Returns (j.write .compact indent) := by
  induction j generalizing indent with
  | null => exact returns_of_plain (by simp [write, isPlain])
  | bool value => cases value <;> exact returns_of_plain (by simp [write, isPlain])
  | number n => exact returns_of_plain n.plain
  | string text => exact returns_writeText text
  | array items ih =>
    rw [write_array_compact]
    refine .enclosed (.intercalate (List.forall_mem_map.mpr ?_)) (fun _ => rfl) (fun _ => rfl) rfl
    exact fun item hmem => ih item hmem (indent + 1)
  | object entries ih =>
    rw [write_object_compact]
    exact .enclosed (returns_entries ih (indent + 1)) (fun _ => rfl) (fun _ => rfl) rfl

end Json

/-! ## One document at the end of another -/

namespace Json

variable {p q : Place} {least : Nat} {c : Char} {rest : List Char}

/-- An opening brace in front of a name stands between tokens: inside quotes, the quote of the name
would close them, and a mark would have to follow. -/
lemma exists_eq_between (h : Passes least p ('\x7b' :: '"' :: c :: rest) q)
    (hc : isMark c = false) : ∃ level, p = .between level := by
  have hthird : (((p.step '\x7b').step '"').step c).AtLeast least := h.tail.tail.tail.start
  cases p with
  | between level => exact ⟨level, rfl⟩
  | quoted level | escaped level =>
    have hbroken : (closed level).step c = .broken := by simp [step, hc]
    change ((closed level).step c).AtLeast least at hthird
    rw [hbroken] at hthird
    exact hthird.elim
  | closed level | broken => exact hthird.elim

/-- If the text of an object ends with the text of a value that is an object with a name, and no
mark is the first character of the name, then the two texts are the same. -/
lemma eq_nil_of_write_eq_append {entries : Entries Json} {k : Json} {front : List Char}
    (hk : k.write .compact 0 = '\x7b' :: '"' :: c :: rest) (hc : isMark c = false)
    (h : (object entries).write .compact 0 = front ++ k.write .compact 0) : front = [] := by
  cases front with
  | nil => rfl
  | cons first front =>
    exfalso
    rw [write_object_compact, List.cons_append] at h
    obtain ⟨-, htail⟩ := List.cons.inj h
    obtain ⟨init, last, hlast⟩ : ∃ init last, k.write .compact 0 = init ++ [last] :=
      (List.eq_nil_or_concat' _).resolve_left (by rw [hk]; exact List.cons_ne_nil _ _)
    rw [hlast, ← List.append_assoc] at htail
    obtain ⟨hinner, hclosing⟩ := List.append_inj' htail rfl
    obtain rfl := List.singleton_inj.mp hclosing
    -- On the level of the entries, the text in front leads to some place `p`.
    obtain ⟨q, hq, hentries⟩ := returns_entries (fun _ value _ => value.returns_write) 1 1
    rw [hinner] at hentries
    obtain ⟨p, -, hinit⟩ := hentries.split
    have hvalue : Passes 0 p (k.write .compact 0) (.between 0) := by
      rw [hlast]
      refine (hinit.mono (Nat.zero_le 1)).append (.cons (hq.atLeast.mono (Nat.zero_le 1)) ?_)
      rw [hq.step_mark rfl]
      exact .nil le_rfl
    -- From there the value leads back to the level of `p`, and yet to the end of the whole.
    obtain ⟨level, rfl⟩ := exists_eq_between (hk ▸ hvalue) hc
    have hlevel : 1 ≤ level := hinit.start
    obtain ⟨r, hr, hreturn⟩ := k.returns_write 0 level
    rcases hr with rfl | rfl
    · cases hreturn.unique hvalue
      omega
    · exact absurd (hreturn.unique hvalue) nofun

end Json

end CloudTemplate
