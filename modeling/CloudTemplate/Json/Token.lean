import CloudTemplate.Json.Basic
import CloudTemplate.Json.Problem
import CloudTemplate.Number.Numeral

/-!
# The tokens of a JSON text

A token is a bracket, a comma, a colon, a literal, a number or a text, with the offsets at which it
starts and stops.  Cutting a text into tokens asks nothing about their order.  Where no token can be
made, the last one is `broken` and carries the problem that a reader has if it needs a value there.

Some tokens are complete and still worth nothing to a reader that keeps values: a number beyond the
doubles, a text with half of a surrogate pair.  They carry their problem instead of their content.
-/

namespace CloudTemplate

/-- The blanks between tokens. -/
def isSpace (c : Char) : Bool := c == ' ' || c == '\t' || c == '\n' || c == '\r'

/-- What a broken token begins with. -/
inductive Lead where
  /-- An opening quote. -/
  | quote
  /-- Any other character. -/
  | other
  /-- Nothing: the text is over. -/
  | nothing
deriving DecidableEq

/-- The content of a token. -/
inductive Lexeme where
  | openList
  | closeList
  | openObject
  | closeObject
  | comma
  | colon
  | null
  | bool (value : Bool)
  | number (value : Except Problem Number)
  | text (value : Except Problem String)
  | broken (lead : Lead) (stop : Stop)

/-- A token with the offsets before and after it. -/
structure Token where
  start : Nat
  stop : Nat
  lexeme : Lexeme

/-! ## Texts -/

/-- The value of a hexadecimal digit. -/
def hexDigit? (c : Char) : Option Nat :=
  if '0' ≤ c && c ≤ '9' then some (c.toNat - 48)
  else if 'a' ≤ c && c ≤ 'f' then some (c.toNat - 87)
  else if 'A' ≤ c && c ≤ 'F' then some (c.toNat - 55)
  else none

/-- The value of four hexadecimal digits. -/
def hexQuad? (a b c d : Char) : Option Nat := do
  let a ← hexDigit? a
  let b ← hexDigit? b
  let c ← hexDigit? c
  let d ← hexDigit? d
  return ((a * 16 + b) * 16 + c) * 16 + d

/-- The character that a letter after a backslash stands for. -/
def shortEscape? (c : Char) : Option Char :=
  match c with
  | '"' => some '"'
  | '\\' => some '\\'
  | '/' => some '/'
  | 'b' => some '\x08'
  | 'f' => some '\x0c'
  | 'n' => some '\n'
  | 'r' => some '\r'
  | 't' => some '\t'
  | _ => none

/-- Whether a code unit is the first half of a surrogate pair. -/
def isHighSurrogate (unit : Nat) : Bool := 0xD800 ≤ unit && unit ≤ 0xDBFF

/-- Whether a code unit is the second half of a surrogate pair. -/
def isLowSurrogate (unit : Nat) : Bool := 0xDC00 ≤ unit && unit ≤ 0xDFFF

/-- The character of a surrogate pair. -/
def surrogatePair (high low : Nat) : Char :=
  Char.ofNat (0x10000 + (high - 0xD800) * 0x400 + (low - 0xDC00))

/-- How many bytes a row of characters takes. -/
def byteLength (cs : List Char) : Nat := cs.foldl (fun n c => n + c.utf8Size) 0

/-- The result of reading a text after its opening quote. -/
inductive ScannedText where
  /-- The text was closed; its content, the offset after the closing quote, and what follows. -/
  | closed (content : Except Problem String) (stop : Nat) (rest : List Char)
  /-- The text was not closed. -/
  | broken (stop : Stop)

/-- What has been read of a text. -/
structure TextState where
  /-- The characters so far, last first. -/
  done : List Char
  /-- The first half of a surrogate pair, if it has just been read. -/
  high : Option Nat
  /-- The first thing that only a strict reader minds. -/
  minded : Option Problem

namespace TextState

/-- Nothing has been read. -/
def start : TextState := ⟨[], none, none⟩

/-- One more character. -/
def push (st : TextState) (c : Char) : TextState := ⟨c :: st.done, none, st.minded⟩

/-- Something that only a strict reader minds; the first such thing counts. -/
def mind (st : TextState) (error : SyntaxError) (offset : Nat) : TextState :=
  ⟨st.done, none, st.minded.or (some ⟨error, offset⟩)⟩

/-- Something else than an escaped code unit comes: half a pair must not be waiting. -/
def noHalf (st : TextState) (offset : Nat) : TextState :=
  if st.high.isSome then st.mind .unexpectedHexEnd offset else st

/-- An escaped code unit where no half of a pair is waiting. -/
def lone (st : TextState) (unit offset : Nat) : TextState :=
  if isLowSurrogate unit then st.mind .loneSurrogate offset
  else if isHighSurrogate unit then ⟨st.done, some unit, st.minded⟩
  else st.push (Char.ofNat unit)

/-- An escaped code unit, which completes a waiting half or stands alone. -/
def codeUnit (st : TextState) (unit offset : Nat) : TextState :=
  match st.high with
  | none => st.lone unit offset
  | some high =>
    if isLowSurrogate unit then st.push (surrogatePair high unit)
    else (st.mind .loneSurrogate offset).lone unit offset

/-- The content of a text that is complete. -/
def content (st : TextState) : Except Problem String :=
  match st.minded with
  | none => .ok (String.ofList st.done.reverse)
  | some problem => .error problem

/-- The text ends here for both readers, unless a strict one gave up before. -/
def giveUp (st : TextState) (stop : Stop) : ScannedText :=
  .broken { stop with strict := st.minded.getD stop.strict }

end TextState

/-- Reads a text after its opening quote. -/
def scanText (st : TextState) (offset : Nat) : List Char → ScannedText
  | [] => st.giveUp (.both .eofInText offset)
  | '"' :: rest => .closed (st.noHalf (offset + 1)).content (offset + 1) rest
  | '\\' :: 'u' :: a :: b :: c :: d :: rest =>
    match hexQuad? a b c d with
    | some unit => scanText (st.codeUnit unit (offset + 6)) (offset + 6) rest
    | none => st.giveUp (.both .invalidEscape (offset + 6))
  | '\\' :: 'u' :: rest =>
    let bytes := byteLength rest
    st.giveUp (if bytes < 4 then .both .eofInText (offset + 2 + bytes)
      else .both .invalidEscape (offset + 6))
  | '\\' :: c :: rest =>
    let st := st.noHalf (offset + 2)
    match shortEscape? c with
    | some meant => scanText (st.push meant) (offset + 2) rest
    | none => st.giveUp (.both .invalidEscape (offset + 2))
  | ['\\'] => st.giveUp (.both .eofInText (offset + 1))
  | c :: rest =>
    let st := st.noHalf (offset + 1)
    if c.toNat < 0x20 then
      st.giveUp ⟨⟨.controlCharacter, offset + 1⟩, ⟨.controlCharacter, offset⟩⟩
    else scanText (st.push c) (offset + c.utf8Size) rest

theorem length_lt_of_scanText {st : TextState} {offset : Nat} {cs : List Char}
    {content : Except Problem String} {stop : Nat} {rest : List Char}
    (h : scanText st offset cs = .closed content stop rest) : rest.length < cs.length := by
  fun_induction scanText st offset cs <;>
    first
    | (simp only [TextState.giveUp, reduceCtorEq] at h)
    | (simp only [ScannedText.closed.injEq] at h; simp [← h.2.2])
    | (next ih => have := ih h; simp only [List.length_cons]; omega)

/-! ## Numbers -/

/-- The digits at the front of a text, of which there must be one, and what follows them. -/
def takeDigits (offset : Nat) (cs : List Char) : Except Stop (List Char × List Char) :=
  match cs.takeWhile isDigit, cs.dropWhile isDigit with
  | [], [] => .error ⟨⟨.eofInValue, offset⟩, ⟨.invalidNumber, offset⟩⟩
  | [], _ :: _ => .error (.both .invalidNumber (offset + 1))
  | ds, rest => .ok (ds, rest)

/-- The digits before the point.  A zero stands alone. -/
def takeWhole (offset : Nat) (cs : List Char) : Except Stop (List Char × List Char) :=
  match takeDigits offset cs with
  | .ok ('0' :: _ :: _, _) => .error (.both .invalidNumber (offset + 2))
  | result => result

/-- The digits behind a point, or none where there is no point. -/
def takeFraction (offset : Nat) (cs : List Char) : Except Stop (Option (List Char) × List Char) :=
  match cs with
  | '.' :: more => (takeDigits (offset + 1) more).map fun (ds, rest) => (some ds, rest)
  | _ => .ok (none, cs)

/-- An exponent: whether its sign is a minus, its digits, and the offset at which they start. -/
structure ExponentPart where
  negative : Bool
  digits : List Char
  start : Nat

/-- The exponent, or none where there is no exponent mark. -/
def takeExponent (offset : Nat) (cs : List Char) :
    Except Stop (Option ExponentPart × List Char) :=
  match cs with
  | [] => .ok (none, cs)
  | c :: more =>
    if c == 'e' || c == 'E' then
      let (negative, after) := takeSign more
      let start := offset + 1 + (more.length - after.length)
      (takeDigits start after).map fun (ds, rest) => (some ⟨negative, ds, start⟩, rest)
    else .ok (none, cs)

namespace ExponentPart

/-- The exponent as an integer. -/
def value (e : ExponentPart) : Int :=
  if e.negative then -(digitsValue e.digits : Int) else digitsValue e.digits

/-- The offset after the digit with which the exponent leaves the signed 32-bit integers. -/
def overflow? (e : ExponentPart) : Option Nat :=
  let rec go (value offset : Nat) : List Char → Option Nat
    | [] => none
    | d :: rest =>
      let value := 10 * value + (d.toNat - 48)
      if 0x80000000 ≤ value then some (offset + 1) else go value (offset + 1) rest
  go 0 e.start e.digits

end ExponentPart

/-- The double of a literal, which is the one nearest to its decimal, a tie going to the even one.
Not every reader of JSON is as careful: one that multiplies the digits by a power of ten in doubles
may end in a double beside it, if digits or power have no exact double, as with literals of sixteen
digits and more.  Whatever is said here of reading a text again is said of a reader that takes the
nearest double.

A literal beyond the doubles is noticed when its exponent leaves the 32-bit integers, or else when
it has been read to the end. -/
def realNumber (negative : Bool) (whole fraction : List Char) (exponent : Option ExponentPart)
    (stop : Nat) : Except Problem Number :=
  let power := (exponent.map ExponentPart.value).getD 0
  match (Decimal.mk (digitsValue (whole ++ fraction)) (power - fraction.length)).toMagnitude? with
  | some magnitude => .ok (.real ⟨negative, magnitude⟩)
  | none =>
    let noticed := (exponent.bind ExponentPart.overflow?).getD stop
    .error ⟨.numberOutOfRange, noticed⟩

/-- The number of a literal.  Only a row of digits that fits 64 bits is a whole number, and a zero
with a minus sign is not. -/
def numberOfParts (negative : Bool) (whole : List Char) (fraction : Option (List Char))
    (exponent : Option ExponentPart) (stop : Nat) : Except Problem Number :=
  let n : Int := if negative then -(digitsValue whole : Int) else digitsValue whole
  if h : (fraction.isNone ∧ exponent.isNone ∧ (n ≠ 0 ∨ ¬ negative)) ∧
      leastInt64 ≤ n ∧ n ≤ greatestNat64 then
    .ok (.whole n h.2)
  else realNumber negative whole (fraction.getD []) exponent stop

/-- Reads a number after its sign: its value, the offset after it, and what follows. -/
def scanUnsigned (negative : Bool) (offset : Nat) (cs : List Char) :
    Except Stop (Except Problem Number × Nat × List Char) :=
  match takeWhole offset cs with
  | .error stop => .error stop
  | .ok (whole, afterWhole) =>
    let pointOffset := offset + whole.length
    match takeFraction pointOffset afterWhole with
    | .error stop => .error stop
    | .ok (fraction, afterFraction) =>
      let markOffset := pointOffset + (fraction.map fun ds => ds.length + 1).getD 0
      match takeExponent markOffset afterFraction with
      | .error stop => .error stop
      | .ok (exponent, rest) =>
        let stop := (exponent.map fun e => e.start + e.digits.length).getD markOffset
        .ok (numberOfParts negative whole fraction exponent stop, stop, rest)

/-- Reads a number: its value, the offset after it, and what follows. -/
def scanNumber (offset : Nat) (cs : List Char) :
    Except Stop (Except Problem Number × Nat × List Char) :=
  match cs with
  | '-' :: more => scanUnsigned true (offset + 1) more
  | _ => scanUnsigned false offset cs

/-! ## Tokens -/

/-- Reads the rest of a literal: the offset after it and what follows. -/
def scanLiteral (expected : List Char) (offset : Nat) (cs : List Char) :
    Except Stop (Nat × List Char) :=
  match expected, cs with
  | [], cs => .ok (offset, cs)
  | _ :: _, [] => .error (.both .eofInValue offset)
  | e :: expected, c :: cs =>
    if c = e then scanLiteral expected (offset + 1) cs
    else .error (.both .expectedLiteral (offset + 1))

/-- The token that begins with a character which is no space, together with what follows it.
Nothing follows a broken token. -/
def scanToken (offset : Nat) (c : Char) (rest : List Char) : Token × List Char :=
  let single (lexeme : Lexeme) := (Token.mk offset (offset + 1) lexeme, rest)
  let broken (lead : Lead) (stop : Stop) := (Token.mk offset offset (.broken lead stop), [])
  let literal (expected : List Char) (lexeme : Lexeme) :=
    match scanLiteral expected (offset + 1) rest with
    | .ok (stop, rest) => (Token.mk offset stop lexeme, rest)
    | .error stop => broken .other stop
  match c with
  | '[' => single .openList
  | ']' => single .closeList
  | '\x7b' => single .openObject
  | '\x7d' => single .closeObject
  | ',' => single .comma
  | ':' => single .colon
  | 'n' => literal ['u', 'l', 'l'] .null
  | 't' => literal ['r', 'u', 'e'] (.bool true)
  | 'f' => literal ['a', 'l', 's', 'e'] (.bool false)
  | '"' =>
    match scanText .start (offset + 1) rest with
    | .closed content stop rest => (⟨offset, stop, .text content⟩, rest)
    | .broken stop => broken .quote stop
  | c =>
    if c == '-' || isDigit c then
      match scanNumber offset (c :: rest) with
      | .ok (value, stop, rest) => (⟨offset, stop, .number value⟩, rest)
      | .error stop => broken .other stop
    else broken .other (.both .expectedValue (offset + 1))

/-! ### Progress

Every token takes at least one character, so that cutting a text into tokens comes to an end. -/

theorem length_lt_of_takeDigits {offset : Nat} {cs ds rest : List Char}
    (h : takeDigits offset cs = .ok (ds, rest)) : rest.length < cs.length := by
  have parts : (cs.takeWhile isDigit).length + (cs.dropWhile isDigit).length = cs.length := by
    rw [← List.length_append, List.takeWhile_append_dropWhile]
  unfold takeDigits at h
  split at h
  · simp at h
  · simp at h
  · next taken left notBoth notNone =>
    simp only [Except.ok.injEq, Prod.mk.injEq] at h
    have : 0 < (cs.takeWhile isDigit).length := by
      cases hw : cs.takeWhile isDigit with
      | cons d more => simp
      | nil =>
        cases hr : cs.dropWhile isDigit with
        | nil => exact absurd hr (notBoth hw)
        | cons d more => exact absurd hr (notNone d more hw)
    rw [← h.2]
    omega

theorem length_lt_of_takeWhole {offset : Nat} {cs ds rest : List Char}
    (h : takeWhole offset cs = .ok (ds, rest)) : rest.length < cs.length := by
  unfold takeWhole at h
  split at h
  · simp at h
  · exact length_lt_of_takeDigits h

theorem length_le_of_takeFraction {offset : Nat} {cs rest : List Char} {ds : Option (List Char)}
    (h : takeFraction offset cs = .ok (ds, rest)) : rest.length ≤ cs.length := by
  unfold takeFraction at h
  split at h
  · next more =>
    cases hd : takeDigits (offset + 1) more with
    | error stop => simp [hd, Except.map] at h
    | ok pair =>
      simp only [hd, Except.map, Except.ok.injEq, Prod.mk.injEq] at h
      have := length_lt_of_takeDigits hd
      simp only [List.length_cons, ← h.2]
      omega
  · simp_all

theorem length_takeSign_le (cs : List Char) : (takeSign cs).2.length ≤ cs.length := by
  unfold takeSign
  split <;> simp

theorem length_le_of_takeExponent {offset : Nat} {cs rest : List Char}
    {e : Option ExponentPart} (h : takeExponent offset cs = .ok (e, rest)) :
    rest.length ≤ cs.length := by
  unfold takeExponent at h
  split at h
  · simp_all
  · next c more =>
    split at h
    · have hs := length_takeSign_le more
      generalize takeSign more = signed at h hs
      obtain ⟨negative, after⟩ := signed
      simp only at h hs
      cases hd : takeDigits (offset + 1 + (more.length - after.length)) after with
      | error stop => simp [hd, Except.map] at h
      | ok pair =>
        simp only [hd, Except.map, Except.ok.injEq, Prod.mk.injEq] at h
        have := length_lt_of_takeDigits hd
        simp only [List.length_cons, ← h.2]
        omega
    · simp_all

theorem length_lt_of_scanUnsigned {negative : Bool} {offset : Nat} {cs rest : List Char}
    {value : Except Problem Number} {stop : Nat}
    (h : scanUnsigned negative offset cs = .ok (value, stop, rest)) :
    rest.length < cs.length := by
  unfold scanUnsigned at h
  split at h
  · simp at h
  · next whole afterWhole hw =>
    dsimp only at h
    split at h
    · simp at h
    · next fraction afterFraction hf =>
      split at h
      · simp at h
      · next exponent left he =>
        simp only [Except.ok.injEq, Prod.mk.injEq] at h
        have := length_lt_of_takeWhole hw
        have := length_le_of_takeFraction hf
        have := length_le_of_takeExponent he
        rw [← h.2.2]
        omega

theorem length_lt_of_scanNumber {offset : Nat} {cs rest : List Char}
    {value : Except Problem Number} {stop : Nat}
    (h : scanNumber offset cs = .ok (value, stop, rest)) : rest.length < cs.length := by
  unfold scanNumber at h
  split at h
  · have := length_lt_of_scanUnsigned h
    simp only [List.length_cons]
    omega
  · exact length_lt_of_scanUnsigned h

theorem length_le_of_scanLiteral {expected : List Char} {offset : Nat} {cs rest : List Char}
    {stop : Nat} (h : scanLiteral expected offset cs = .ok (stop, rest)) :
    rest.length ≤ cs.length := by
  fun_induction scanLiteral expected offset cs with
  | case1 => simp_all
  | case2 => simp at h
  | case3 offset e expected cs ih =>
    have := ih h
    simp only [List.length_cons]
    omega
  | case4 => simp at h

theorem length_scanToken_le (offset : Nat) (c : Char) (rest : List Char) :
    (scanToken offset c rest).2.length ≤ rest.length := by
  have literal (expected : List Char) (lexeme : Lexeme) :
      (match scanLiteral expected (offset + 1) rest with
        | .ok (stop, rest) => (Token.mk offset stop lexeme, rest)
        | .error stop => (Token.mk offset offset (.broken .other stop), [])).2.length
        ≤ rest.length := by
    split
    · next h => exact length_le_of_scanLiteral h
    · exact Nat.zero_le _
  unfold scanToken
  dsimp only
  split
  · exact Nat.le_refl _
  · exact Nat.le_refl _
  · exact Nat.le_refl _
  · exact Nat.le_refl _
  · exact Nat.le_refl _
  · exact Nat.le_refl _
  · exact literal _ _
  · exact literal _ _
  · exact literal _ _
  · split
    · next h => exact Nat.le_of_lt (length_lt_of_scanText h)
    · exact Nat.zero_le _
  · split
    · split
      · next h =>
        have := length_lt_of_scanNumber h
        simp only [List.length_cons] at this
        exact Nat.le_of_lt_succ this
      · exact Nat.zero_le _
    · exact Nat.zero_le _

/-- The tokens of a text whose first byte has the given offset. -/
def tokensFrom (offset : Nat) (cs : List Char) : List Token :=
  match cs with
  | [] => []
  | c :: rest =>
    if isSpace c then tokensFrom (offset + 1) rest
    else
      let scanned := scanToken offset c rest
      scanned.1 :: tokensFrom scanned.1.stop scanned.2
termination_by cs.length
decreasing_by
  · simp
  · have := length_scanToken_le offset c rest
    simp only [List.length_cons]
    omega

/-- The tokens of a text. -/
def tokens (text : String) : List Token := tokensFrom 0 text.toList

end CloudTemplate
